import Metatype.Proofs.Outcome

/-!
# The revision of an object class

The revision of an object class is the floor of the reader, or the latest one where something that
is collected needs it. Of a reader, the floor makes no other difference to an extraction.

* `ObjectClassMarker.objectClass_floor`, `Reader.outcome_floor`: another floor changes the revision
  alone.
* `Reader.NeedsLatest`: the three things that need the latest revision.
* `Reader.revision_read`: the revision of an object class, and extractions with other floors.
-/

namespace Metatype

open Reporting

/-! ## Another floor -/

/-- What a marker declares differs between two floors in the revision alone. -/
theorem ObjectClassMarker.objectClass_floor (m : ObjectClassMarker) (typeName : String)
    (floor other : Revision) :
    m.objectClass typeName floor = { m.objectClass typeName other with revision := floor } := by
  rw [objectClass_eq, objectClass_eq]

namespace Reader

variable (r : Reader)

theorem agreesOnMembers_floor (floor : Revision) :
    r.AgreesOnMembers { r with floor } where
  recognizer := rfl
  mapType owner member returnType := by
    have helement : ∀ name, ({ r with floor } : Reader).elementType name = r.elementType name :=
      fun _ => rfl
    unfold mapType
    simp only [helement]
  offered _ := rfl
  isNestedElement _ := rfl
  choiceProblems _ _ _ := rfl
  defaultProblems _ _ := rfl

theorem outcome_floor (root : DeclaredType) (floor : Revision) :
    ({ r with floor } : Reader).outcome root = (r.outcome root).map fun o =>
      { o with revision :=
          floor.orLatest ((r.lineage root).any fun t => t.needsLatest (t.name = root.name)) } := by
  have hagrees := r.agreesOnMembers_floor floor
  have hvisits : ({ r with floor } : Reader).visits root = r.visits root := rfl
  have hlineage : ({ r with floor } : Reader).lineage root = r.lineage root := rfl
  unfold outcome visitAttributes
  rw [hvisits, hlineage, funext hagrees.onAttributes.typeExtensions]
  simp only [hagrees.onAttributes.typeAttributes]
  cases root.objectClassMarker? with
  | none => rfl
  | some m =>
    rw [Option.map_some, Option.map_some, Option.map_some,
      m.objectClass_floor root.name floor r.floor]

theorem problems_floor (root : DeclaredType) (floor : Revision) :
    ({ r with floor } : Reader).problems root = r.problems root := by
  have hagrees := r.agreesOnMembers_floor floor
  have hsteps : ({ r with floor } : Reader).stepsAbove root = r.stepsAbove root := rfl
  unfold problems
  rw [hagrees.visitProblems, funext (hagrees.stepProblems root.name), hsteps]

end Reader

/-! ## What needs the latest revision -/

namespace Collector

/-- The collector of a type when all its events but the end have been replayed. -/
def atEnd (r : Reader) (t : DeclaredType) (isRoot : Bool) (d : Draft) : Collector :=
  value ((start d).run r t isRoot t.events.dropLast)

theorem atEnd_eq_gathered (r : Reader) (t : DeclaredType) (isRoot : Bool) (d : Draft) :
    atEnd r t isRoot d = gathered r t isRoot d := by
  have hevents : (start d).run r t isRoot t.events.dropLast =
      (start d).run r t isRoot (t.markers.map .marker ++ t.fields.flatMap Field.events ++
        t.methods.flatMap Method.events) := by
    rw [DeclaredType.events, List.dropLast_concat, List.cons_append, List.cons_append, run_cons,
      step, pure_bind]
    rfl
  rw [atEnd, hevents, (yields_declarations r t isRoot d).value_eq]

/-- There is a shorthand key exactly if the counts of the collector allow it at the end. -/
theorem isSome_shorthand?_iff (r : Reader) (t : DeclaredType) (isRoot : Bool) (d : Draft) :
    t.shorthand?.isSome = true ↔
      (atEnd r t isRoot d).hasValue = true ∧ (atEnd r t isRoot d).lacking = 0 := by
  rw [atEnd_eq_gathered, DeclaredType.shorthand?]
  change _ ↔ t.hasValue = true ∧ t.lacking t.methods = 0
  split
  · rename_i h
    simpa using h
  · rename_i h
    simpa using h

end Collector

namespace Reader

/-- What needs the latest revision in an extraction. -/
inductive NeedsLatest (r : Reader) (root : DeclaredType) : Prop
  /-- The last static field of the root with the name of the prefix holds one. -/
  | rootPrefix {f : Field} {p : String} (hf : Field.lastPrefix? true root.fields = some f)
      (hp : f.keyPrefix? = some p)
  /-- At the end of a visited annotation type, whatever draft it is collected into, an element
  `value` has been met and no default of the other elements is lacking. -/
  | shorthand {t : DeclaredType} {d : Draft} (ht : t ∈ r.lineage root)
      (hkind : t.isAnnotationType = true)
      (hvalue : (Collector.atEnd r t (t.name = root.name) d).hasValue = true)
      (hlacking : (Collector.atEnd r t (t.name = root.name) d).lacking = 0)
  /-- The key of an element of a visited type is written with a hyphen. -/
  | hyphen {t : DeclaredType} {m : Method} (ht : t ∈ r.lineage root) (hm : m ∈ t.elements)
      (hhyphen : .hyphen ∈ PropertyKey.pieces m.name.toList)

theorem hasHyphen_iff (m : Method) :
    m.hasHyphen = true ↔ .hyphen ∈ PropertyKey.pieces m.name.toList := by
  simp [Method.hasHyphen]

theorem isAnnotationType_of_shorthand? {t : DeclaredType} (h : t.shorthand?.isSome = true) :
    t.isAnnotationType = true := by
  unfold DeclaredType.shorthand? DeclaredType.hasValue at h
  split at h
  · rename_i hboth
    exact (Bool.and_eq_true_iff.1 (Bool.and_eq_true_iff.1 hboth).1).1
  · cases h

theorem needsLatest_iff (r : Reader) (root : DeclaredType) :
    r.NeedsLatest root ↔
      ((root.givenPrefix? true).isSome || (r.lineage root).any (·.usesLatest)) = true := by
  rw [Bool.or_eq_true, List.any_eq_true]
  constructor
  · rintro (⟨hf, hp⟩ | ⟨ht, -, hvalue, hlacking⟩ | ⟨ht, hm, hhyphen⟩)
    · refine .inl ?_
      rw [DeclaredType.givenPrefix?, hf, Option.bind_some, hp]
      rfl
    · refine .inr ⟨_, ht, Bool.or_eq_true_iff.2 (.inl ?_)⟩
      exact (Collector.isSome_shorthand?_iff _ _ _ _).2 ⟨hvalue, hlacking⟩
    · refine .inr ⟨_, ht, Bool.or_eq_true_iff.2 (.inr ?_)⟩
      exact List.any_eq_true.2 ⟨_, hm, (hasHyphen_iff _).2 hhyphen⟩
  · rintro (hgiven | ⟨t, ht, huses⟩)
    · obtain ⟨p, hp⟩ := Option.isSome_iff_exists.1 hgiven
      obtain ⟨f, hf, hfp⟩ := Option.bind_eq_some_iff.1 hp
      exact .rootPrefix hf hfp
    · rcases Bool.or_eq_true_iff.1 huses with hshorthand | hany
      · obtain ⟨hvalue, hlacking⟩ :=
          (Collector.isSome_shorthand?_iff r t (t.name = root.name) {}).1 hshorthand
        exact .shorthand ht (isAnnotationType_of_shorthand? hshorthand) hvalue hlacking
      · obtain ⟨m, hm, hhyphen⟩ := List.any_eq_true.1 hany
        exact .hyphen ht hm ((hasHyphen_iff m).1 hhyphen)

/-! ## The revision -/

/-- Under a faithful source the revision of an object class is the latest one if the floor is, or if
something needs it, and the floor otherwise. With another floor an extraction from the same root
gives an object class that differs in the revision alone, or none again, and reports the same. -/
theorem revision_read (r : Reader) (hfaithful : r.source.IsFaithful) (root : DeclaredType)
    (before : Report) :
    let run := (r.read root).run before
    (∀ o, run.1 = some o →
        (r.floor = .v1_4 ∨ r.NeedsLatest root → o.revision = .v1_4) ∧
          (¬(r.floor = .v1_4 ∨ r.NeedsLatest root) → o.revision = r.floor)) ∧
      ∀ floor, ∃ revision,
        (({ r with floor } : Reader).read root).run before =
          (run.1.map fun o => { o with revision }, run.2) := by
  intro run
  have hrun : run = (r.outcome root, ⟨before.items ++ r.problems root⟩) :=
    r.yields_read root before
  constructor
  · intro o ho
    rw [hrun, r.outcome_of_faithful hfaithful] at ho
    obtain ⟨m, -, rfl⟩ := Option.map_eq_some_iff.1 ho
    rw [needsLatest_iff]
    constructor
    · rintro (hfloor | hneeds)
      · change r.floor.orLatest _ = _
        rw [hfloor, Revision.orLatest, ite_self]
      · change r.floor.orLatest _ = _
        rw [hneeds]
        rfl
    · intro hnot
      have hneeds := Bool.eq_false_iff.2 (not_or.1 hnot).2
      change r.floor.orLatest _ = _
      rw [hneeds]
      rfl
  · intro floor
    let needed := (r.lineage root).any fun t => t.needsLatest (t.name = root.name)
    refine ⟨floor.orLatest needed, ?_⟩
    rw [hrun, ({ r with floor } : Reader).yields_read root before, r.outcome_floor root floor,
      r.problems_floor root floor]

/-- An interface that inherits from an annotation type, which leads back to it and has a shorthand
key. -/
def pool : DeclaredType :=
  { name := "com.acme.Pool", kind := .interfaceType, interfaces := ["com.acme.Limit"]
    markers := [.objectClass {}] }

def limit : DeclaredType :=
  { name := "com.acme.Limit", kind := .annotationType, interfaces := ["com.acme.Pool"]
    methods := [
      { name := "value", returnType := "int" },
      { name := "unit", returnType := "java.lang.String", default := some (.string "s") }] }

/-- An interface that inherits from an annotation type with a prefix of its own, an element besides
`value` without a default, and a member with a hyphen in its key that is no element. -/
def quota : DeclaredType :=
  { name := "com.acme.Quota", kind := .interfaceType, interfaces := ["com.acme.Range"]
    markers := [.objectClass {}] }

def range : DeclaredType :=
  { name := "com.acme.Range", kind := .annotationType
    fields := [
      { name := "PREFIX_", typeName := "java.lang.String", isStatic := true, isFinal := true
        constant := some (.string "range.") }]
    methods := [
      { name := "value", returnType := "int" },
      { name := "unit", returnType := "java.lang.String" },
      { name := "upper$_$bound", returnType := "int", parameters := ["int"] }] }

def poolReader : Reader :=
  { source := Registry.source { types := [pool, limit, quota, range], nodup := by decide }
    floor := .v1_3 }

/-- The first interface needs the latest revision, the second one does not. -/
theorem revision_read_pool :
    poolReader.source.IsFaithful ∧
      (∃ o, ((poolReader.read pool).run {}).1 = some o ∧ o.revision = .v1_4) ∧
      (∃ o, ((poolReader.read quota).run {}).1 = some o ∧ o.revision = .v1_3) ∧
      (({ poolReader with floor := .v1_4 } : Reader).read quota).run {} =
        (((poolReader.read quota).run {}).1.map fun o => { o with revision := .v1_4 },
          ((poolReader.read quota).run {}).2) := by
  have hfaithful : poolReader.source.IsFaithful := Registry.isFaithful_source _
  have hlineage : poolReader.lineage pool = [pool, limit] := by
    have hlimit : poolReader.route.source.lookup "com.acme.Limit" = .found limit := rfl
    rw [lineage_eq, stepsAbove, pool, Ancestry.follow_descend (by decide) _ hlimit rfl, limit,
      Ancestry.follow_skip (by decide), Ancestry.follow_nil, Ancestry.follow_nil]
    rfl
  have hlineage' : poolReader.lineage quota = [quota, range] := by
    have hrange : poolReader.route.source.lookup "com.acme.Range" = .found range := rfl
    rw [lineage_eq, stepsAbove, quota, Ancestry.follow_descend (by decide) _ hrange rfl, range,
      Ancestry.follow_nil, Ancestry.follow_nil]
    rfl
  have hneeds : poolReader.NeedsLatest pool := by
    rw [needsLatest_iff, hlineage]
    decide
  have hneeds' : ¬poolReader.NeedsLatest quota := by
    rw [needsLatest_iff, hlineage']
    decide
  have hnot : ¬(poolReader.floor = .v1_4 ∨ poolReader.NeedsLatest quota) :=
    not_or.2 ⟨by decide, hneeds'⟩
  obtain ⟨o, _, hpool⟩ := poolReader.exists_run_read pool rfl {}
  obtain ⟨o', _, hquota⟩ := poolReader.exists_run_read quota rfl {}
  have ho := congrArg Prod.fst hpool
  have ho' := congrArg Prod.fst hquota
  obtain ⟨hread, -⟩ := poolReader.revision_read hfaithful pool {}
  obtain ⟨hread', hfloors⟩ := poolReader.revision_read hfaithful quota {}
  obtain ⟨revision, hother⟩ := hfloors .v1_4
  obtain ⟨hlatest, -⟩ :=
    ({ poolReader with floor := .v1_4 } : Reader).revision_read hfaithful quota {}
  have hrevision : revision = .v1_4 := by
    refine (hlatest { o' with revision } ?_).1 (.inl rfl)
    rw [hother, ho']
    rfl
  rw [hrevision] at hother
  exact ⟨hfaithful, ⟨o, ho, (hread o ho).1 (.inr hneeds)⟩,
    ⟨o', ho', (hread' o' ho').2 hnot⟩, hother⟩

end Reader

end Metatype
