import Metatype.Proofs.Gathering

/-!
# The replay of a type

At the end of a type, what has been gathered is settled. With an object class, the attributes that
are added are those of the elements of the type, in order.

* `Collector.yields_finish`: the end of a type.
* `Collector.yields_events`: all events of a type, from any collector.
* `Collector.attributes_run_events`: the attributes that a type adds are those of its elements.
-/

namespace Metatype

open Reporting

/-! ## What a type leaves -/

/-- The draft with the prefix that a field gives, if it gives one. -/
def Draft.withPrefix (d : Draft) (field : Option Field) : Draft :=
  match field.bind Field.keyPrefix? with
  | some p => { d with keyPrefix := some p }.raise .v1_4
  | none => d

namespace DeclaredType

/-- The problem with the field of the prefix, if it holds none. -/
def prefixProblems (t : DeclaredType) : Option Field → List Diagnostic
  | none => []
  | some f =>
    if f.keyPrefix?.isSome then []
    else
      [⟨.invalidPrefix, .warning,
        "Field " ++ prefixFieldName ++ " in " ++ t.name ++
          " is not a static final String field with a compile-time constant value: " ++
          (f.constant.map Constant.text).getD "null", []⟩]

end DeclaredType

namespace Reader

/-- The draft of a type before its members are settled. -/
def opened (r : Reader) (t : DeclaredType) (isRoot : Bool) (d : Draft) : Draft :=
  let extensions := (t.markers ++ t.looseMarkers).filterMap (r.looseExtension? t)
  let extended := ((r.declared t t.markers d).extend extensions).withPrefix
    (Field.lastPrefix? isRoot t.fields)
  if t.shorthand?.isSome then extended.raise .v1_4 else extended

/-- The draft after a type has been collected. -/
def collected (r : Reader) (t : DeclaredType) (isRoot : Bool) (d : Draft) : Draft :=
  if (r.declared t t.markers d).objectClass.isSome then
    t.members.foldl (r.settled t t.shorthand?) (r.opened t isRoot d)
  else r.declared t t.markers d

/-- The problems of a type that is collected into a draft. -/
def collectProblems (r : Reader) (t : DeclaredType) (isRoot : Bool) (d : Draft) :
    List Diagnostic :=
  t.markers.flatMap (t.headProblems (d.objectClass.isSome || t.isInterface)) ++
    t.looseMarkers.flatMap t.looseProblems ++
    if (r.declared t t.markers d).objectClass.isSome then
      t.prefixProblems (Field.lastPrefix? isRoot t.fields) ++ t.members.flatMap (r.memberProblems t)
    else []

end Reader

namespace Collector

variable (r : Reader) (t : DeclaredType) (isRoot : Bool)

/-! ## The end of the type -/

theorem yields_resolvePrefix (c : Collector) :
    Yields (c.resolvePrefix t)
      { c with prefixField := none, draft := c.draft.withPrefix c.prefixField }
      (t.prefixProblems c.prefixField) := by
  unfold resolvePrefix DeclaredType.prefixProblems Draft.withPrefix
  cases hf : c.prefixField with
  | none =>
    have hsame : { c with prefixField := none, draft := c.draft } = c := by rw [← hf]
    rw [Option.bind_none, hsame]
    exact yields_pure c
  | some f =>
    rw [Option.bind_some]
    cases hp : f.keyPrefix? with
    | some p =>
      dsimp only
      rw [hp]
      exact yields_pure _
    | none =>
      dsimp only
      rw [hp]
      exact (yields_warning _ _).then_pure _

/-- The end of a type that has an object class: the prefix is resolved and the pending attributes are
settled. -/
theorem yields_finish {c : Collector} {members : List Method}
    (hdraft : c.draft.objectClass.isSome = true)
    (hpending : c.pending = members.map (Method.pending r.recognizer))
    (hkeys : isRoot = false → c.prefixField = none) :
    let extended := (c.draft.extend c.extensions).withPrefix c.prefixField
    let opened := if (c.shorthand t).isSome then extended.raise .v1_4 else extended
    Yields (c.finish r t isRoot)
      { c with
        cursor := .ended, extensions := [], pending := [], prefixField := none
        draft := members.foldl (r.settled t (c.shorthand t)) opened }
      (t.prefixProblems c.prefixField ++ members.flatMap (r.memberProblems t)) := by
  intro extended opened
  have hnone : ¬c.draft.objectClass.isNone = true := by
    rw [← Option.not_isSome, hdraft]
    simp
  have hsettle := (r.yields_settleAll t (c.shorthand t) opened members).map fun d =>
    { c with cursor := .ended, extensions := [], pending := [], prefixField := none, draft := d }
  rw [← hpending] at hsettle
  unfold finish
  dsimp only
  rw [if_neg hnone]
  cases isRoot with
  | true => exact (yields_resolvePrefix t _).bind hsettle
  | false =>
    have hfield := hkeys rfl
    have hextended : extended = c.draft.extend c.extensions := by
      simp only [extended, hfield]
      rfl
    rw [if_neg Bool.false_ne_true, pure_bind]
    simp only [opened, hextended, hfield] at hsettle ⊢
    exact hsettle

/-! ## All events -/

/-- All events of a type, from any collector. -/
theorem yields_events (c : Collector) :
    ∃ after, Yields (c.run r t isRoot t.events) after (r.collectProblems t isRoot c.draft) ∧
      after.draft = r.collected t isRoot c.draft := by
  have hevents : c.run r t isRoot t.events =
      (start c.draft).run r t isRoot (t.markers.map .marker ++ t.fields.flatMap Field.events ++
        t.methods.flatMap Method.events) >>= fun c => c.finish r t isRoot := by
    have hend : ∀ c : Collector, c.run r t isRoot [.typeEnd] = c.finish r t isRoot := by
      intro c
      simp [run_cons, run_nil, step]
    rw [DeclaredType.events, List.cons_append, List.cons_append, List.cons_append, run_cons, step,
      pure_bind, reset_eq_start, run_append]
    simp only [hend]
  have hdeclarations := yields_declarations r t isRoot c.draft
  rw [hevents, Reader.collectProblems, Reader.collected]
  cases hdraft : (r.declared t t.markers c.draft).objectClass.isSome with
  | true =>
    have hfinish := yields_finish r t isRoot (c := gathered r t isRoot c.draft) hdraft rfl
      (fun h => by rw [h]; exact Field.lastPrefix?_false t.fields)
    exact ⟨_, hdeclarations.bind hfinish, rfl⟩
  | false =>
    have hfinish : (gathered r t isRoot c.draft).finish r t isRoot =
        pure { gathered r t isRoot c.draft with cursor := .ended } := by
      have hnone : (gathered r t isRoot c.draft).draft.objectClass.isNone = true := by
        rw [← Option.not_isSome]
        exact congrArg not hdraft
      unfold finish
      dsimp only
      rw [if_pos hnone]
    rw [if_neg Bool.false_ne_true, if_neg Bool.false_ne_true]
    refine ⟨{ gathered r t isRoot c.draft with cursor := .ended }, hdeclarations.bind ?_, rfl⟩
    rw [hfinish]
    exact yields_pure _

end Collector

/-! ## The attributes of a type -/

namespace Draft

theorem isSome_withPrefix (d : Draft) (field : Option Field) :
    (d.withPrefix field).objectClass.isSome = d.objectClass.isSome := by
  unfold withPrefix
  split
  · simp
  · rfl

theorem attributes_withPrefix (d : Draft) (field : Option Field) :
    (d.withPrefix field).attributes = d.attributes := by
  unfold withPrefix
  split
  · rw [attributes_raise]
    rfl
  · rfl

theorem keyPrefix_withPrefix (d : Draft) (field : Option Field) :
    (d.withPrefix field).keyPrefix = (field.bind Field.keyPrefix?).or d.keyPrefix := by
  unfold withPrefix
  split
  · rename_i p h
    rw [h]
    rfl
  · rename_i h
    rw [h]
    rfl

end Draft

namespace ObjectClass

/-- An object class that is designated for configurations and no others, each of them once. -/
def designatedFor (o : ObjectClass) (pids : List (String × Bool)) : ObjectClass :=
  { o with designates := pids.eraseDups.map fun p => ⟨o.id, p.1, p.2⟩ }

theorem isDesignated_designatedFor (o : ObjectClass) (pids : List (String × Bool))
    (p : String × Bool) : (o.designatedFor pids).isDesignated p.1 p.2 = true ↔ p ∈ pids := by
  rw [← List.mem_eraseDups]
  simp only [isDesignated, designatedFor, List.any_map, List.any_eq_true, Function.comp_apply,
    Bool.and_eq_true, decide_eq_true_eq]
  constructor
  · rintro ⟨q, hq, hpid, hfactory⟩
    rwa [← Prod.ext hpid hfactory]
  · intro hp
    exact ⟨p, hp, rfl, rfl⟩

theorem designate_designatedFor (o : ObjectClass) (pids : List (String × Bool))
    (p : String × Bool) :
    ((o.designatedFor pids).designate p.1 p.2).1 = o.designatedFor (pids ++ [p]) := by
  have hmem := o.isDesignated_designatedFor pids p
  unfold designate
  by_cases hp : p ∈ pids
  · have hnew : [p].removeAll pids = [] := by simp [List.removeAll, hp]
    rw [if_pos (hmem.2 hp), designatedFor, designatedFor, List.eraseDups_append, hnew,
      List.eraseDups_nil, List.append_nil]
  · have hnew : [p].removeAll pids = [p] := by simp [List.removeAll, hp]
    rw [if_neg (mt hmem.1 hp), designatedFor, designatedFor, List.eraseDups_append, hnew,
      List.map_append]
    rfl

theorem foldl_designate (o : ObjectClass) (before pids : List (String × Bool)) :
    pids.foldl (fun o p => (o.designate p.1 p.2).1) (o.designatedFor before) =
      o.designatedFor (before ++ pids) := by
  induction pids generalizing before with
  | nil => rw [List.foldl_nil, List.append_nil]
  | cons p rest ih =>
    rw [List.foldl_cons, designate_designatedFor, ih, List.append_assoc, List.singleton_append]

end ObjectClass

namespace ObjectClassMarker

/-- A declared object class, part by part. Each named configuration is designated once. -/
theorem objectClass_eq (m : ObjectClassMarker) (typeName : String) (floor : Revision) :
    m.objectClass typeName floor =
      { id := m.id.getD typeName
        name := m.name.getD (label (m.id.getD typeName))
        description := m.description.getD ""
        localization := m.localization.getD ("OSGI-INF/l10n/" ++ typeName)
        attributes := []
        designates := (m.pids typeName).eraseDups.map fun p => ⟨m.id.getD typeName, p.1, p.2⟩
        icons := m.icon.getD []
        extensions := []
        revision := floor } := by
  have hdesignated := ObjectClass.foldl_designate
    (.new (m.id.getD typeName) (m.name.getD (label (m.id.getD typeName))) (m.description.getD "")
      (m.localization.getD ("OSGI-INF/l10n/" ++ typeName)) floor) [] (m.pids typeName)
  exact congrArg (fun o : ObjectClass => { o with icons := m.icon.getD [] }) hdesignated

theorem attributes_objectClass (m : ObjectClassMarker) (typeName : String) (floor : Revision) :
    (m.objectClass typeName floor).attributes = [] := by
  rw [objectClass_eq]

theorem extensions_objectClass (m : ObjectClassMarker) (typeName : String) (floor : Revision) :
    (m.objectClass typeName floor).extensions = [] := by
  rw [objectClass_eq]

theorem revision_objectClass (m : ObjectClassMarker) (typeName : String) (floor : Revision) :
    (m.objectClass typeName floor).revision = floor := by
  rw [objectClass_eq]

end ObjectClassMarker

namespace Reader

variable (r : Reader) (t : DeclaredType) (isRoot : Bool) (d : Draft)

theorem attributes_declared (markers : List Marker) :
    (r.declared t markers d).attributes = d.attributes := by
  unfold declared
  split
  · rename_i h
    have hnone : d.objectClass = none := by simpa using (Bool.and_eq_true_iff.1 h).1
    unfold Draft.attributes
    rw [hnone]
    cases (markers.filterMap Marker.objectClass?).head? with
    | none => rfl
    | some m => exact m.attributes_objectClass t.name r.floor
  · rfl

theorem keyPrefix_declared (markers : List Marker) :
    (r.declared t markers d).keyPrefix = d.keyPrefix := by
  unfold declared
  split <;> rfl

theorem isSome_opened :
    (r.opened t isRoot d).objectClass.isSome = (r.declared t t.markers d).objectClass.isSome := by
  unfold opened
  dsimp only
  split <;> simp [Draft.isSome_withPrefix]

theorem attributes_opened : (r.opened t isRoot d).attributes = d.attributes := by
  unfold opened
  dsimp only
  split <;> simp [Draft.attributes_withPrefix, attributes_declared]

theorem keyPrefix_opened :
    (r.opened t isRoot d).keyPrefix =
      ((Field.lastPrefix? isRoot t.fields).bind Field.keyPrefix?).or d.keyPrefix := by
  unfold opened
  dsimp only
  split <;> simp [Draft.keyPrefix_withPrefix, keyPrefix_declared]

theorem isSome_declared_of_collected (h : (r.collected t isRoot d).objectClass.isSome = true) :
    (r.declared t t.markers d).objectClass.isSome = true := by
  unfold collected at h
  split at h
  · rename_i hdeclared
    exact hdeclared
  · exact h

theorem isSome_collected {d : Draft} (h : d.objectClass.isSome = true) :
    (r.collected t isRoot d).objectClass.isSome = true := by
  have hdeclared : (r.declared t t.markers d).objectClass.isSome = true := by
    rw [r.declared_of_isSome t t.markers h]
    exact h
  rw [collected, if_pos hdeclared]
  exact (r.settleAll_attributes t t.shorthand? t.members
    (by rw [isSome_opened]; exact hdeclared)).2.1

/-- Collecting a type into a draft that then has an object class adds the attributes of its elements
under the prefix that holds then. -/
theorem attributes_collected (h : (r.collected t isRoot d).objectClass.isSome = true) :
    (r.collected t isRoot d).keyPrefix =
        ((Field.lastPrefix? isRoot t.fields).bind Field.keyPrefix?).or d.keyPrefix ∧
      (r.collected t isRoot d).attributes = d.attributes ++ t.elements.map
        (r.memberAttribute t.kind t.name (r.collected t isRoot d).keyPrefix t.shorthand?) := by
  have hdeclared := r.isSome_declared_of_collected t isRoot d h
  obtain ⟨hkey, -, hattributes⟩ := r.settleAll_attributes t t.shorthand? t.members
    (d := r.opened t isRoot d) (by rw [isSome_opened]; exact hdeclared)
  rw [collected, if_pos hdeclared, hkey, hattributes, keyPrefix_opened, attributes_opened]
  exact ⟨rfl, rfl⟩

/-! ## The problems of a type -/

theorem code_of_mem_looseProblems (m : Marker) :
    ∀ d ∈ t.looseProblems m, d.code = .misplacedAttributeMarker := by
  match m with
  | .objectClass _ => simp [DeclaredType.looseProblems]
  | .attribute _ => simp [DeclaredType.looseProblems, DeclaredType.misplacedMarker]
  | .foreign _ => simp [DeclaredType.looseProblems]

theorem code_of_mem_headProblems (allowed : Bool) (m : Marker) :
    ∀ d ∈ t.headProblems allowed m,
      d.code = .misplacedAttributeMarker ∨ d.code = .notAnInterface := by
  match m with
  | .objectClass _ => cases allowed <;> simp [DeclaredType.headProblems]
  | .attribute _ => simp [DeclaredType.headProblems, DeclaredType.misplacedMarker]
  | .foreign _ => simp [DeclaredType.headProblems]

theorem code_of_mem_prefixProblems (field : Option Field) :
    ∀ d ∈ t.prefixProblems field, d.code = .invalidPrefix := by
  unfold DeclaredType.prefixProblems
  split
  · simp
  · split <;> simp

/-- The problems with the markers of a type have no other codes. -/
theorem filter_markerProblems (allowed : Bool) (code : Code)
    (hcode : code ∉ [.misplacedAttributeMarker, .notAnInterface]) :
    (t.markers.flatMap (t.headProblems allowed) ++
      t.looseMarkers.flatMap t.looseProblems).filter (·.code = code) = [] := by
  simp only [List.mem_cons, List.not_mem_nil, or_false, not_or] at hcode
  obtain ⟨hmisplaced, hinterface⟩ := hcode
  refine filter_code_eq_nil fun p hp => ?_
  rcases List.mem_append.1 hp with hp | hp
  · obtain ⟨m, -, hm⟩ := List.mem_flatMap.1 hp
    rcases code_of_mem_headProblems t _ m p hm with h | h
    · rw [h]
      exact Ne.symm hmisplaced
    · rw [h]
      exact Ne.symm hinterface
  · obtain ⟨m, -, hm⟩ := List.mem_flatMap.1 hp
    rw [code_of_mem_looseProblems t m p hm]
    exact Ne.symm hmisplaced

/-- The problems of a type with one of the codes that members alone have are those of its members,
where they are settled. -/
theorem filter_collectProblems (h : (r.collected t isRoot d).objectClass.isSome = true)
    {code : Code} (hcode : code ∉ [.misplacedAttributeMarker, .notAnInterface, .invalidPrefix]) :
    (r.collectProblems t isRoot d).filter (·.code = code) =
      t.members.flatMap fun m => (r.memberProblems t m).filter (·.code = code) := by
  simp only [List.mem_cons, List.not_mem_nil, or_false, not_or] at hcode
  obtain ⟨hmisplaced, hinterface, hinvalid⟩ := hcode
  have hmarkers := filter_markerProblems t (d.objectClass.isSome || t.isInterface) code
    (by simp [hmisplaced, hinterface])
  have hkeys : (t.prefixProblems (Field.lastPrefix? isRoot t.fields)).filter
      (·.code = code) = [] := by
    refine filter_code_eq_nil fun p hp => ?_
    rw [code_of_mem_prefixProblems t _ p hp]
    exact Ne.symm hinvalid
  have hdeclared := r.isSome_declared_of_collected t isRoot d h
  rw [collectProblems, if_pos hdeclared, List.filter_append, hmarkers, List.filter_append, hkeys,
    List.filter_flatMap]
  rfl

end Reader

namespace Collector

end Collector

end Metatype
