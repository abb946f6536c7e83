import Metatype.Proofs.FieldUse

/-!
# The prefix of the keys

The last static field of the root with the name of the prefix decides on the prefix of all keys,
those of the members of ancestors too. If it holds no prefix, there is one warning. The fields of
ancestors decide on nothing, whether or not a walk comes back to the root.

* `Field.GivesPrefix`: what a field must be to hold a prefix.
* `Reader.ids_outcome`: the ids of all attributes, by the prefix that the root gives.
* `Reader.invalid_problems`: the warnings about a prefix are those of the root.
* `Reader.prefix_read`: the ids and the warnings, by the field of the root.
-/

namespace Metatype

open Reporting

/-! ## Prefixes and keys -/

/-- A field holds a prefix: it is final, and a string by its type and by its constant. -/
structure Field.GivesPrefix (f : Field) (p : String) : Prop where
  isFinal : f.isFinal = true
  typeName : f.typeName = "java.lang.String"
  constant : f.constant = some (.string p)

theorem Constant.string?_eq_some_iff {c : Constant} {s : String} :
    c.string? = some s ↔ c = .string s := by
  cases c <;> simp [string?]

theorem Field.keyPrefix?_eq_some_iff {f : Field} {p : String} :
    f.keyPrefix? = some p ↔ f.GivesPrefix p := by
  unfold keyPrefix?
  constructor
  · intro h
    split at h
    · rename_i hfield
      obtain ⟨c, hc, hstring⟩ := Option.bind_eq_some_iff.1 h
      rw [Constant.string?_eq_some_iff] at hstring
      rw [Bool.and_eq_true, decide_eq_true_iff] at hfield
      exact ⟨hfield.1, hfield.2, by rw [hc, hstring]⟩
    · cases h
  · rintro ⟨hfinal, htype, hconstant⟩
    rw [hfinal, htype, hconstant]
    rfl

theorem Field.keyPrefix?_eq_none {f : Field} (h : ¬∃ p, f.GivesPrefix p) : f.keyPrefix? = none := by
  cases hf : f.keyPrefix? with
  | none => rfl
  | some p => exact absurd ⟨p, keyPrefix?_eq_some_iff.1 hf⟩ h

theorem DeclaredType.givenPrefix?_of_lastPrefix? (t : DeclaredType) {isRoot : Bool} {f : Field}
    (h : Field.lastPrefix? isRoot t.fields = some f) : t.givenPrefix? isRoot = f.keyPrefix? := by
  rw [givenPrefix?, h, Option.bind_some]

namespace Reader

variable (r : Reader)

/-- The keys of the elements of the types that an extraction visits. -/
def plainKeys (root : DeclaredType) : List String :=
  (r.lineage root).flatMap fun t => t.elements.map t.plainKey

/-- Under a faithful source the ids of all attributes are the keys under the prefix that the root
gives. -/
theorem ids_outcome (hfaithful : r.source.IsFaithful) {root : DeclaredType} {o : ObjectClass}
    (h : r.outcome root = some o) :
    o.attributes.map (·.id) =
      (r.plainKeys root).map ((root.givenPrefix? true).getD "" ++ ·) := by
  rw [r.outcome_of_faithful hfaithful] at h
  obtain ⟨m, -, rfl⟩ := Option.map_eq_some_iff.1 h
  simp only [plainKeys, List.map_flatMap, ids_typeAttributes]

/-! ## Warnings -/

theorem invalid_memberProblems (t : DeclaredType) (m : Method) :
    (r.memberProblems t m).filter (·.code = .invalidPrefix) = [] := by
  have helement := r.filter_elementProblems t.kind t.name m .invalidPrefix (by decide)
  unfold memberProblems
  split
  · rfl
  · split
    · exact helement
    · rfl

/-- The warnings about a prefix on a visited type are those on the field that may hold it. -/
theorem invalid_visitProblems (t : DeclaredType) (isRoot : Bool) :
    (r.visitProblems t isRoot).filter (·.code = .invalidPrefix) =
      t.prefixProblems (Field.lastPrefix? isRoot t.fields) := by
  have hmarkers := filter_markerProblems t true .invalidPrefix (by decide)
  have hkeys : (t.prefixProblems (Field.lastPrefix? isRoot t.fields)).filter
      (·.code = .invalidPrefix) = t.prefixProblems (Field.lastPrefix? isRoot t.fields) :=
    List.filter_eq_self.2 fun p hp => decide_eq_true (code_of_mem_prefixProblems t _ p hp)
  have hmembers :
      (t.members.flatMap (r.memberProblems t)).filter (·.code = .invalidPrefix) = [] := by
    rw [List.filter_flatMap, List.flatMap_eq_nil_iff]
    exact fun m _ => r.invalid_memberProblems t m
  rw [visitProblems, List.filter_append, hmarkers, List.filter_append, hkeys, hmembers,
    List.append_nil, List.nil_append]

/-- No step after the root warns about a prefix. -/
theorem invalid_stepProblems (hfaithful : r.source.IsFaithful) {root : DeclaredType}
    {s : Ancestry.Step} (hs : s ∈ r.stepsAbove root) :
    (r.stepProblems root.name s).filter (·.code = .invalidPrefix) = [] := by
  cases s with
  | visit t =>
    have hname : decide (t.name = root.name) = false :=
      decide_eq_false (name_ne_of_visit hfaithful root hs)
    rw [stepProblems, invalid_visitProblems, hname, Field.lastPrefix?_false]
    rfl
  | unknown name owner => rfl
  | failed name owner f => rfl

/-- Under a faithful source the warnings about a prefix are those on the field of the root. -/
theorem invalid_problems (hfaithful : r.source.IsFaithful) {root : DeclaredType}
    (h : root.objectClassMarker?.isSome = true) :
    (r.problems root).filter (·.code = .invalidPrefix) =
      root.prefixProblems (Field.lastPrefix? true root.fields) := by
  have hsteps : ((r.stepsAbove root).flatMap (r.stepProblems root.name)).filter
      (·.code = .invalidPrefix) = [] := by
    rw [List.filter_flatMap, List.flatMap_eq_nil_iff]
    exact fun s hs => r.invalid_stepProblems hfaithful hs
  rw [problems, if_pos h, List.filter_append, invalid_visitProblems, hsteps, List.append_nil]

/-! ## The prefix of an extraction -/

/-- Let an extraction under a faithful source give an object class. If the last static field of the
root with the name of the prefix holds one, all ids have this prefix and nothing is said about it.
If the field holds none, no id has a prefix and there is one warning. Without such a field no id has
a prefix and there is no warning. With other fields in the types of the source nothing changes. -/
theorem prefix_read (r : Reader) (hfaithful : r.source.IsFaithful) (root : DeclaredType)
    {before after : Report} {o : ObjectClass}
    (hread : (r.read root).run before = (some o, after)) :
    let ids := o.attributes.map (·.id)
    (∃ added, after.items = before.items ++ added ∧
      let warnings := added.filter (·.code = .invalidPrefix)
      (∀ f, Field.lastPrefix? true root.fields = some f →
        (∀ p, f.GivesPrefix p → ids = (r.plainKeys root).map (p ++ ·) ∧ warnings = []) ∧
          ((¬∃ p, f.GivesPrefix p) →
            ids = r.plainKeys root ∧ ∃ w, warnings = [w] ∧ w.severity = .warning)) ∧
        (Field.lastPrefix? true root.fields = none → ids = r.plainKeys root ∧ warnings = [])) ∧
      ∀ change, KeepsUses change →
        ((r.withFields change).read root).run before = (some o, after) := by
  intro ids
  obtain ⟨ho, hafter⟩ := r.outcome_of_run_read hread
  have hsome : root.objectClassMarker?.isSome = true := by
    rw [← r.isSome_outcome, ho]
    rfl
  have hids := r.ids_outcome hfaithful ho
  have hinvalid := r.invalid_problems hfaithful hsome
  have hempty : (r.plainKeys root).map ("" ++ ·) = r.plainKeys root := by
    simp only [String.empty_append, List.map_id']
  refine ⟨⟨r.problems root, hafter, ?_, ?_⟩, ?_⟩
  -- There is a field, and it holds a prefix or none.
  · intro f hf
    have hgiven : root.givenPrefix? true = f.keyPrefix? := root.givenPrefix?_of_lastPrefix? hf
    rw [hf, DeclaredType.prefixProblems] at hinvalid
    constructor
    · intro p hp
      have hkey : f.keyPrefix? = some p := Field.keyPrefix?_eq_some_iff.2 hp
      rw [hgiven, hkey] at hids
      rw [hkey] at hinvalid
      exact ⟨hids, hinvalid⟩
    · intro hnone
      have hkey : f.keyPrefix? = none := Field.keyPrefix?_eq_none hnone
      rw [hgiven, hkey] at hids
      rw [hkey] at hinvalid
      exact ⟨hids.trans hempty, _, hinvalid, rfl⟩
  -- There is no field.
  · intro hf
    have hgiven : root.givenPrefix? true = none := by rw [DeclaredType.givenPrefix?, hf]; rfl
    rw [hgiven] at hids
    rw [hf] at hinvalid
    exact ⟨hids.trans hempty, hinvalid⟩
  · intro change hchange
    rw [r.read_withFields hfaithful hchange, hread]

/-- An interface with two fields for the prefix. It inherits from an annotation type that has a
prefix of its own and leads back to it. -/
def mailer : DeclaredType :=
  { name := "com.acme.Mailer", kind := .interfaceType, interfaces := ["com.acme.Relay"]
    markers := [.objectClass {}]
    fields := [
      { name := "PREFIX_", typeName := "int", isStatic := true },
      { name := "PREFIX_", typeName := "java.lang.String", isStatic := true, isFinal := true
        constant := some (.string "mail.") }]
    methods := [{ name := "from_host", returnType := "java.lang.String" }] }

def relay : DeclaredType :=
  { name := "com.acme.Relay", kind := .annotationType, interfaces := ["com.acme.Mailer"]
    fields := [
      { name := "PREFIX_", typeName := "java.lang.String", isStatic := true, isFinal := true
        constant := some (.string "relay.") }]
    methods := [{ name := "value", returnType := "int" }] }

/-- An interface whose field for the prefix holds none. -/
def printer : DeclaredType :=
  { name := "com.acme.Printer", kind := .interfaceType, interfaces := ["com.acme.Relay"]
    markers := [.objectClass {}]
    fields := [
      { name := "PREFIX_", typeName := "java.lang.String", isStatic := true, isFinal := true }] }

def mailerReader : Reader :=
  { source := Registry.source { types := [mailer, relay, printer], nodup := by decide } }

/-- The last field of the first root gives the prefix, also for the key of its ancestor. The second
root gets a warning. Without the fields of the source the first one comes to the same. -/
theorem prefix_read_mailer :
    mailerReader.source.IsFaithful ∧
      (∃ o after, (mailerReader.read mailer).run {} = (some o, after) ∧
        o.attributes.map (·.id) = ["mail.from.host", "mail.relay"] ∧
        after.items.filter (·.code = .invalidPrefix) = [] ∧
        ((mailerReader.withFields DeclaredType.usedFields).read mailer).run {} =
          (some o, after)) ∧
      ∃ o after, (mailerReader.read printer).run {} = (some o, after) ∧
        o.attributes.map (·.id) = ["relay", "from.host"] ∧
        ∃ w, after.items.filter (·.code = .invalidPrefix) = [w] ∧ w.severity = .warning := by
  have hfaithful : mailerReader.source.IsFaithful := Registry.isFaithful_source _
  have hrelay : mailerReader.route.source.lookup "com.acme.Relay" = .found relay := rfl
  have hmailer : mailerReader.route.source.lookup "com.acme.Mailer" = .found mailer := rfl
  have hlineage : mailerReader.lineage mailer = [mailer, relay] := by
    rw [lineage_eq, stepsAbove, mailer, Ancestry.follow_descend (by decide) _ hrelay rfl, relay,
      Ancestry.follow_skip (by decide), Ancestry.follow_nil, Ancestry.follow_nil]
    rfl
  have hlineage' : mailerReader.lineage printer = [printer, relay, mailer] := by
    rw [lineage_eq, stepsAbove, printer, Ancestry.follow_descend (by decide) _ hrelay rfl, relay,
      Ancestry.follow_descend (by decide) _ hmailer rfl, mailer, Ancestry.follow_skip (by decide),
      Ancestry.follow_nil, Ancestry.follow_nil, Ancestry.follow_nil]
    rfl
  have hkeys : mailerReader.plainKeys mailer = ["from.host", "relay"] := by
    rw [plainKeys, hlineage]
    decide
  have hkeys' : mailerReader.plainKeys printer = ["relay", "from.host"] := by
    rw [plainKeys, hlineage']
    decide
  obtain ⟨o, after, hread⟩ := mailerReader.exists_run_read mailer rfl {}
  obtain ⟨o', after', hread'⟩ := mailerReader.exists_run_read printer rfl {}
  obtain ⟨⟨added, hafter, hfield, -⟩, hchange⟩ :=
    mailerReader.prefix_read hfaithful mailer hread
  obtain ⟨⟨added', hafter', hfield', -⟩, -⟩ :=
    mailerReader.prefix_read hfaithful printer hread'
  obtain ⟨hids, hwarnings⟩ := (hfield _ rfl).1 "mail." ⟨rfl, rfl, rfl⟩
  have hnone : ¬∃ p, printer.fields[0].GivesPrefix p := by
    rintro ⟨p, hp⟩
    cases hp.constant
  obtain ⟨hids', w, hwarnings', hw⟩ := (hfield' _ rfl).2 hnone
  rw [hkeys] at hids
  rw [hkeys'] at hids'
  have hitems : after.items = added := by simpa using hafter
  have hitems' : after'.items = added' := by simpa using hafter'
  rw [← hitems] at hwarnings
  rw [← hitems'] at hwarnings'
  exact ⟨hfaithful,
    ⟨o, after, hread, hids, hwarnings, hchange _ DeclaredType.keepsUses_usedFields⟩,
    o', after', hread', hids', w, hwarnings', hw⟩

end Reader

end Metatype
