import Metatype.Proofs.Outcome

/-!
# The identity of an object class

The root of an extraction decides whether there is an object class, what it is called and what is
bound to it: the first object class marker on the root does, together with the name of the root.
Later markers on the root, markers on its members and markers on its ancestors have no say. Of a
root that declares no object class nothing else is looked at.

* `DeclaredType.isSome_objectClassMarker?_iff`: the roots that declare an object class.
* `ObjectClassMarker.Identifies`: the identity that a marker gives to an object class.
* `Reader.identity_read`: the identity comes from the root, and without one the source is not asked.
-/

namespace Metatype

open Reporting

/-! ## The marker that counts -/

namespace DeclaredType

theorem isInterface_iff (t : DeclaredType) :
    t.isInterface = true ↔ t.kind = .interfaceType ∨ t.kind = .annotationType := by
  simp [isInterface]

theorem head?_of_objectClassMarker? {t : DeclaredType} {m : ObjectClassMarker}
    (h : t.objectClassMarker? = some m) :
    (t.markers.filterMap Marker.objectClass?).head? = some m := by
  unfold objectClassMarker? at h
  split at h
  · exact h
  · cases h

theorem exists_head?_iff (markers : List Marker) :
    (markers.filterMap Marker.objectClass?).head?.isSome = true ↔
      ∃ m, Marker.objectClass m ∈ markers := by
  constructor
  · intro h
    obtain ⟨m, hm⟩ := Option.isSome_iff_exists.1 h
    obtain ⟨marker, hmem, hmarker⟩ := List.mem_filterMap.1 (List.mem_of_head? hm)
    obtain rfl := Marker.eq_of_objectClass? hmarker
    exact ⟨m, hmem⟩
  · rintro ⟨m, hmem⟩
    have hfilter : m ∈ markers.filterMap Marker.objectClass? :=
      List.mem_filterMap.2 ⟨_, hmem, rfl⟩
    exact List.isSome_head?.2 (List.ne_nil_of_mem hfilter)

/-- Interfaces and annotation types declare an object class by a marker on them. -/
theorem isSome_objectClassMarker?_iff (t : DeclaredType) :
    t.objectClassMarker?.isSome = true ↔
      (t.kind = .interfaceType ∨ t.kind = .annotationType) ∧
        ∃ m, Marker.objectClass m ∈ t.markers := by
  rw [← isInterface_iff, ← exists_head?_iff]
  unfold objectClassMarker?
  split
  · rename_i hinterface
    exact ⟨fun hm => ⟨hinterface, hm⟩, fun h => h.2⟩
  · rename_i hother
    exact ⟨fun hm => (nomatch hm), fun h => absurd h.1 hother⟩

end DeclaredType

/-! ## What the marker says -/

/-- An object class has the identity that a marker on a type gives it. What the marker leaves open
is told from the name of the type. -/
structure ObjectClassMarker.Identifies (m : ObjectClassMarker) (typeName : String)
    (o : ObjectClass) : Prop where
  id : o.id = m.id.getD typeName
  name : o.name = m.name.getD (label o.id)
  description : o.description = m.description.getD ""
  localization : o.localization = m.localization.getD ("OSGI-INF/l10n/" ++ typeName)
  /-- Each configuration that the marker names is designated once, in order. -/
  designates : o.designates = (m.pids typeName).eraseDups.map fun p => ⟨o.id, p.1, p.2⟩
  icons : o.icons = m.icon.getD []

theorem ObjectClassMarker.identifies_objectClass (m : ObjectClassMarker) (typeName : String)
    (floor : Revision) : m.Identifies typeName (m.objectClass typeName floor) := by
  rw [objectClass_eq]
  exact ⟨rfl, rfl, rfl, rfl, rfl, rfl⟩

namespace Reader

variable (r : Reader)

/-- What the visited types add does not touch the identity. -/
theorem identifies_outcome {root : DeclaredType} {o : ObjectClass} (h : r.outcome root = some o) :
    ∃ m, root.objectClassMarker? = some m ∧ m.Identifies root.name o := by
  obtain ⟨m, hm, rfl⟩ := Option.map_eq_some_iff.1 h
  obtain ⟨hid, hname, hdescription, hlocalization, hdesignates, hicons⟩ :=
    m.identifies_objectClass root.name r.floor
  exact ⟨m, hm, hid, hname, hdescription, hlocalization, hdesignates, hicons⟩

/-- Of a root that declares no object class every reader makes the same. -/
theorem run_read_of_undeclared {root : DeclaredType} (h : root.objectClassMarker? = none)
    (r' : Reader) (before : Report) :
    (r'.read root).run before = (r.read root).run before := by
  have houtcome : ∀ s : Reader, s.outcome root = none := fun s => by rw [outcome, h, Option.map_none]
  have hproblems : r'.problems root = r.problems root := by
    have hnone : ¬root.objectClassMarker?.isSome = true := by simp [h]
    rw [problems, problems, if_neg hnone, if_neg hnone]
  rw [r'.yields_read root before, r.yields_read root before, houtcome, houtcome, hproblems]

/-! ## The identity of an extraction -/

/-- An extraction gives an object class exactly if the root is an interface or an annotation type
with an object class marker on it. The object class has the identity that the first of these
markers gives it. If there is none, any other reader gives none either and reports the same,
whatever its source answers. -/
theorem identity_read (r : Reader) (root : DeclaredType) (before : Report) :
    let run := (r.read root).run before
    (run.1.isSome = true ↔
        (root.kind = .interfaceType ∨ root.kind = .annotationType) ∧
          ∃ m, Marker.objectClass m ∈ root.markers) ∧
      (∀ o, run.1 = some o →
        ∃ m, (root.markers.filterMap Marker.objectClass?).head? = some m ∧
          m.Identifies root.name o) ∧
      (run.1 = none → ∀ r' : Reader, (r'.read root).run before = run) := by
  intro run
  have hrun : run = (r.outcome root, ⟨before.items ++ r.problems root⟩) := r.yields_read root before
  have houtcome : run.1 = r.outcome root := congrArg Prod.fst hrun
  refine ⟨?_, ?_, ?_⟩
  · rw [houtcome, isSome_outcome, DeclaredType.isSome_objectClassMarker?_iff]
  · intro o ho
    rw [houtcome] at ho
    obtain ⟨m, hm, hidentifies⟩ := r.identifies_outcome ho
    exact ⟨m, DeclaredType.head?_of_objectClassMarker? hm, hidentifies⟩
  · intro hnone r'
    rw [houtcome] at hnone
    have hmarker : root.objectClassMarker? = none := Option.map_eq_none_iff.1 hnone
    exact r.run_read_of_undeclared hmarker r' before

/-- An interface with two object class markers. A member of it and the interface that it inherits
from have one, too. -/
def account : DeclaredType :=
  { name := "com.acme.Account", kind := .interfaceType, interfaces := ["com.acme.Party"]
    markers := [
      .objectClass {
        id := some "account", pid := some ["$", "mail", "$"], factoryPid := some ["mail"] },
      .objectClass { id := some "other", name := some "Other" }]
    methods := [
      { name := "owner", returnType := "java.lang.String"
        markers := [.objectClass { description := some "The owner" }] }] }

def party : DeclaredType :=
  { name := "com.acme.Party", kind := .interfaceType
    markers := [.objectClass { name := some "Party", localization := some "party" }] }

/-- A class, on which a marker declares nothing. -/
def ledger : DeclaredType :=
  { name := "com.acme.Ledger", interfaces := ["com.acme.Party"], markers := [.objectClass {}] }

def accountReader : Reader :=
  { source := Registry.source { types := [account, party, ledger], nodup := by decide } }

/-- The first marker on the interface counts. Of the class another source makes no difference. -/
theorem identity_read_account :
    (∃ o, ((accountReader.read account).run {}).1 = some o ∧ o.id = "account" ∧
        o.name = "Account" ∧ o.description = "" ∧
        o.localization = "OSGI-INF/l10n/" ++ account.name ∧
        o.designates =
          [⟨"account", "com.acme.Account", false⟩, ⟨"account", "mail", false⟩,
            ⟨"account", "mail", true⟩]) ∧
      ((accountReader.read ledger).run {}).1 = none ∧
      (({ source := .empty } : Reader).read ledger).run {} = (accountReader.read ledger).run {} := by
  obtain ⟨hfound, hidentity, -⟩ := accountReader.identity_read account {}
  obtain ⟨hfound', -, hundeclared⟩ := accountReader.identity_read ledger {}
  have hsome : ((accountReader.read account).run {}).1.isSome = true :=
    hfound.2 ⟨.inl rfl, _, List.mem_cons_self⟩
  obtain ⟨o, ho⟩ := Option.isSome_iff_exists.1 hsome
  obtain ⟨m, hm, hid, hname, hdescription, hlocalization, hdesignates, -⟩ := hidentity o ho
  cases hm
  have haccount : o.id = "account" := hid
  rw [haccount] at hname hdesignates
  have hnone : ((accountReader.read ledger).run {}).1 = none := by
    rw [← Option.not_isSome_iff_eq_none, hfound']
    rintro ⟨hkind, -⟩
    cases hkind <;> contradiction
  refine ⟨⟨o, ho, haccount, ?_, hdescription, hlocalization, ?_⟩, hnone, hundeclared hnone _⟩
  · rw [hname]
    decide
  · rw [hdesignates]
    decide

end Reader

end Metatype
