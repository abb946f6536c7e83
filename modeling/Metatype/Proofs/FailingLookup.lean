import Metatype.Proofs.CollectionSearch
import Metatype.Proofs.Outcome

/-!
# Sources that fail

A failure of the source is reported, and an extraction goes on as if the source did not know the name.
The object class comes to the same: the search for collections, the walk, the types, the choices and
the defaults take a failure for a missing type. The platform's collections are the exception. They are
known by name where the source does not know them, but not where it fails.

* `Source.Forgets`: a source that does not know names on which another one fails.
* `CollectionLike.search_of_forgets`, `Ancestry.follow_of_forgets`: both searches go the same way.
* `Reader.agreesOnAttributes_of_forgets`: members give the same attributes.
* `Reader.read_failing`: an extraction gives the same object class.
-/

namespace Metatype

open Reporting

/-! ## Failures and missing types -/

namespace Source

/-- The source that gives another answer than a type to the names for which there is a failure. -/
def withhold (s : Source) (failures : String → Option Failure) (answer : Failure → Lookup)
    (h : ∀ f t, answer f ≠ .found t) : Source where
  lookup name := (failures name).elim (s.lookup name) answer
  names := s.names
  mem_names {name t} hfound := by
    cases hf : failures name with
    | none =>
      rw [hf] at hfound
      exact s.mem_names hfound
    | some f =>
      rw [hf] at hfound
      exact absurd hfound (h f t)

/-- The source that fails on these names. -/
def failing (s : Source) (failures : String → Option Failure) : Source :=
  s.withhold failures .failed nofun

/-- The source that does not know these names. -/
def missing (s : Source) (failures : String → Option Failure) : Source :=
  s.withhold failures (fun _ => .unknown) nofun

end Source

/-- An answer stays, or a failure becomes the answer that there is no such type. -/
inductive Lookup.Forgets : Lookup → Lookup → Prop
  | same (l : Lookup) : Forgets l l
  | failed (f : Failure) : Forgets (.failed f) .unknown

theorem Lookup.Forgets.found_iff {l l' : Lookup} (h : l.Forgets l') {t : DeclaredType} :
    l = .found t ↔ l' = .found t := by
  cases h with
  | same => exact Iff.rfl
  | failed f => exact ⟨nofun, nofun⟩

/-- Of some names on which a source fails the other one has no type. Both answer the same on the
platform's collections. -/
structure Source.Forgets (s s' : Source) : Prop where
  lookup : ∀ name, (s.lookup name).Forgets (s'.lookup name)
  platform : ∀ name ∈ CollectionLike.platform, s'.lookup name = s.lookup name

theorem Source.forgets_missing (s : Source) {failures : String → Option Failure}
    (h : ∀ name ∈ CollectionLike.platform, failures name = none) :
    (s.failing failures).Forgets (s.missing failures) where
  lookup name := by
    unfold failing missing withhold
    dsimp only
    cases failures name with
    | none => exact .same _
    | some f => exact .failed f
  platform name hname := by
    unfold failing missing withhold
    dsimp only
    rw [h name hname]
    rfl

/-! ## The search for collections -/

namespace CollectionLike

variable {s s' : Source} (h : s.Forgets s')

include h

theorem search_of_forgets (todo : List Ancestor) (visited : List String) :
    search s' todo visited = search s todo visited := by
  -- By the cases of the search: a failure is passed like an unknown name, and both are visited then.
  induction todo, visited using search_induction s with
  | nil visited => rw [search_nil, search_nil]
  | family a rest visited ha => rw [search_family ha, search_family ha]
  | skip a rest visited ha hv ih => rw [search_skip ha hv, search_skip ha hv, ih]
  | pass a rest visited ha hv hstop ih =>
    have hstop' : ∀ t, s'.lookup a.name = .found t → a.admits t = false := by
      intro t hf'
      exact hstop t ((h.lookup a.name).found_iff.2 hf')
    rw [search_pass ha hv rest hstop, search_pass ha hv rest hstop', ih]
  | descend a rest visited t ha hv hf hadmits ihBelow ihAfter =>
    have hf' : s'.lookup a.name = .found t := (h.lookup a.name).found_iff.1 hf
    rw [search_descend ha hv rest hf hadmits, search_descend ha hv rest hf' hadmits, ihBelow]
    split
    · rfl
    · rename_i hnone
      exact ihAfter hnone

theorem isCollectionLike_of_forgets (name : String) :
    isCollectionLike s' name = isCollectionLike s name := by
  have hlookup := h.lookup name
  have hplatform := h.platform name
  unfold isCollectionLike
  generalize s.lookup name = l at hlookup hplatform ⊢
  generalize s'.lookup name = l' at hlookup hplatform ⊢
  cases hlookup with
  | same =>
    cases l with
    | found t => simp only [search_of_forgets h]
    | unknown => rfl
    | failed f => rfl
  | failed f =>
    have hname : name ∉ platform := by
      intro hmem
      cases hplatform hmem
    simpa using hname

end CollectionLike

/-- A failure on a platform collection is not taken for a missing type. -/
example (f : Failure) :
    isCollectionLike (Source.empty.failing fun _ => some f) "java.util.ArrayList" = false ∧
      isCollectionLike (Source.empty.missing fun _ => some f) "java.util.ArrayList" = true :=
  ⟨rfl, rfl⟩

/-! ## Members -/

/-- A reader with another source. -/
def Reader.withSource (r : Reader) (s : Source) : Reader := { r with source := s }

@[simp]
theorem Reader.source_withSource (r : Reader) (s : Source) : (r.withSource s).source = s := rfl

namespace Reader

variable {r : Reader} {s : Source} (h : r.source.Forgets s)

include h

theorem valueType_verdict_of_forgets (name : String) :
    ((r.withSource s).verdict name).valueType = (r.verdict name).valueType := by
  have hwrites : (r.withSource s).writesAsString = r.writesAsString := rfl
  unfold verdict
  rw [source_withSource, hwrites]
  cases TypeMapping.valueType? name with
  | some v => rfl
  | none =>
    match r.source.lookup name, s.lookup name, h.lookup name with
    | _, _, .same l => rfl
    | _, _, .failed f => rfl

theorem mapped_of_forgets (owner : String) (m : Method) :
    (r.withSource s).mapped owner m = r.mapped owner m := by
  have hshape : TypeMapping.shape (r.withSource s).source = TypeMapping.shape r.source :=
    TypeMapping.shape_congr (CollectionLike.isCollectionLike_of_forgets h)
  have hverdict : ((r.withSource s).returnVerdict owner m.name m.returnType).valueType =
      (r.returnVerdict owner m.name m.returnType).valueType := by
    unfold returnVerdict elementVerdict
    rw [hshape]
    dsimp only
    split
    · rfl
    · split
      · rfl
      · exact valueType_verdict_of_forgets h _
  rw [mapped_eq, mapped_eq, hverdict, hshape]

theorem agreesOnAttributes_of_forgets : r.AgreesOnAttributes (r.withSource s) where
  recognizer := rfl
  mapped := mapped_of_forgets h
  offered element := by
    unfold offered
    rw [source_withSource]
    match r.source.lookup element, s.lookup element, h.lookup element with
    | _, _, .same l => rfl
    | _, _, .failed f => rfl
  isNestedElement element := by
    have hplatform : (r.withSource s).platform = r.platform := rfl
    unfold isNestedElement
    rw [source_withSource, hplatform]
    match r.source.lookup element, s.lookup element, h.lookup element with
    | _, _, .same l => rfl
    | _, _, .failed f => rfl

end Reader

/-! ## The walk -/

/-- The walk visits the same types and names. -/
theorem Ancestry.follow_of_forgets {r : Reader} {s : Source} (h : r.source.Forgets s)
    (owner : String) (names visited : List String) :
    (follow (r.withSource s).route owner names visited).1.filterMap Step.visited? =
        (follow r.route owner names visited).1.filterMap Step.visited? ∧
      (follow (r.withSource s).route owner names visited).2 =
        (follow r.route owner names visited).2 := by
  -- By the cases of the walk: without a type a name is visited all the same, and nothing is gone on
  -- to from it, so that both walks come to the next name with the same names visited.
  induction owner, names, visited using follow_induction r.route with
  | nil owner visited =>
    rw [follow_nil, follow_nil]
    exact ⟨rfl, rfl⟩
  | skip owner name rest visited hskip ih =>
    rw [follow_skip hskip, follow_skip (r := (r.withSource s).route) hskip]
    exact ih
  | pass owner name rest visited hpass hstop ih =>
    have hstop' : ∀ t, (r.withSource s).route.source.lookup name = .found t →
        (r.withSource s).route.goOn t = false := by
      intro t hf'
      exact hstop t ((h.lookup name).found_iff.2 hf')
    have hanswer : (Mention.answer s ⟨owner, name⟩).visited? =
        (Mention.answer r.source ⟨owner, name⟩).visited? := by
      unfold Mention.answer
      dsimp only
      match r.source.lookup name, s.lookup name, h.lookup name with
      | _, _, .same l => rfl
      | _, _, .failed f => rfl
    have hsource : (r.withSource s).route.source = s := rfl
    have hsource' : r.route.source = r.source := rfl
    obtain ⟨hvisited, hnames⟩ := ih
    rw [follow_pass hpass rest hstop,
      follow_pass (r := (r.withSource s).route) hpass rest hstop', hsource, hsource',
      filterMap_cons_toList, filterMap_cons_toList, hanswer, hvisited]
    exact ⟨rfl, hnames⟩
  | descend owner name rest visited t hpass hf hgo ihAbove ihAfter =>
    have hf' : (r.withSource s).route.source.lookup name = .found t :=
      (h.lookup name).found_iff.1 hf
    obtain ⟨habove, hnames⟩ := ihAbove
    obtain ⟨hafter, hnames'⟩ := ihAfter
    rw [follow_descend hpass rest hf hgo,
      follow_descend (r := (r.withSource s).route) hpass rest hf' rfl, hnames]
    refine ⟨?_, hnames'⟩
    rw [List.filterMap_append, List.filterMap_append, filterMap_cons_toList,
      filterMap_cons_toList, habove, hafter]

namespace Reader

theorem lineage_of_forgets {r : Reader} {s : Source} (h : r.source.Forgets s)
    (root : DeclaredType) : (r.withSource s).lineage root = r.lineage root := by
  rw [lineage_eq, lineage_eq, stepsAbove, stepsAbove,
    (Ancestry.follow_of_forgets h root.name root.interfaces [root.name]).1]

/-! ## An extraction -/

/-- A source that fails on names other than the platform's collections gives the same object class as
one that does not know these names. -/
theorem read_failing (r : Reader) {failures : String → Option Failure}
    (h : ∀ name ∈ CollectionLike.platform, failures name = none) (root : DeclaredType)
    (before : Report) :
    (((r.withSource (r.source.failing failures)).read root).run before).1 =
      (((r.withSource (r.source.missing failures)).read root).run before).1 := by
  have hforgets := r.source.forgets_missing h
  let failing := r.withSource (r.source.failing failures)
  have hagrees : failing.AgreesOnAttributes (failing.withSource (r.source.missing failures)) :=
    agreesOnAttributes_of_forgets hforgets
  have hlineage := lineage_of_forgets (r := failing) hforgets root
  have houtcome := hagrees.outcome rfl hlineage
  rw [yields_read, yields_read]
  exact houtcome.symm

/-- An annotation with an ancestor and an enumeration as the type of a member. -/
def gauge : DeclaredType :=
  { name := "com.acme.Gauge", kind := .annotationType, interfaces := ["com.acme.Device"]
    markers := [.objectClass {}]
    methods := [
      { name := "unit", returnType := "com.acme.Unit", default := some (.string "bar") }] }

def gaugeReader : Reader :=
  let device : DeclaredType :=
    { name := "com.acme.Device", kind := .interfaceType
      methods := [{ name := "port", returnType := "int" }] }
  let unit : DeclaredType :=
    { name := "com.acme.Unit", kind := .enumType
      fields := [{ name := "bar", typeName := "com.acme.Unit", isEnumerator := true }] }
  { source := Registry.source { types := [device, unit], nodup := by decide } }

/-- Both types are out of reach. -/
def outage (name : String) : Option Failure :=
  if name = "com.acme.Device" ∨ name = "com.acme.Unit" then some (.unavailable name "timeout")
  else none

/-- The member keeps its default, without a type and choices, and the ancestor adds none. The first
source is reported four times, for the type, the choices, the default and the ancestor. -/
theorem read_failing_gauge :
    let failing := gaugeReader.withSource (gaugeReader.source.failing outage)
    let missing := gaugeReader.withSource (gaugeReader.source.missing outage)
    (∀ name ∈ CollectionLike.platform, outage name = none) ∧
      ∃ o after after', (failing.read gauge).run {} = (some o, after) ∧
        (missing.read gauge).run {} = (some o, after') ∧
        o.attributes.map (fun a => (a.id, a.valueType, a.choices.length, a.defaults)) =
          [("unit", none, 0, some ["bar"])] ∧
        after.items.map (·.code) =
          [.sourceFailure, .sourceFailure, .sourceFailure, .sourceFailure] := by
  intro failing missing
  have hplatform : ∀ name ∈ CollectionLike.platform, outage name = none := by decide
  obtain ⟨o, after, hread⟩ := failing.exists_run_read gauge rfl {}
  obtain ⟨o', after', hread'⟩ := missing.exists_run_read gauge rfl {}
  have hsame := gaugeReader.read_failing hplatform gauge {}
  have ho : some o = some o' := by
    rw [hread, hread'] at hsame
    exact hsame
  cases ho
  obtain ⟨houtcome, hafter⟩ := failing.outcome_of_run_read hread
  have hsteps : failing.stepsAbove gauge =
      [.failed "com.acme.Device" "com.acme.Gauge" (.unavailable "com.acme.Device" "timeout")] := by
    have hstop : ∀ t, failing.route.source.lookup "com.acme.Device" = .found t →
        failing.route.goOn t = false := nofun
    rw [stepsAbove, gauge, Ancestry.follow_pass (by decide) [] hstop, Ancestry.follow_nil]
    rfl
  refine ⟨hplatform, o, after, after', hread, hread', ?_, ?_⟩
  · rw [failing.attributes_of_outcome houtcome, visits, lineage_eq, hsteps]
    decide
  · rw [hafter, problems, hsteps]
    decide

end Reader

end Metatype
