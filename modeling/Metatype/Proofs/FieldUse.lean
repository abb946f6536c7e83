import Mathlib.Data.List.Basic
import Metatype.Proofs.CollectionSearch
import Metatype.Proofs.Outcome

/-!
# What the fields of ancestors are used for

Of the fields of the types that a source answers with, an extraction uses the markers on them and the
names of those that are constants of an enumeration. Nothing else about them makes a difference, be
it their names, their types or their values. The root is given and keeps its fields.

* `CollectionLike.search_withFields`, `Ancestry.follow_withFields`: both searches go the same way.
* `Reader.mapType_withFields`, `Reader.agreesOnMembers_withFields`: so do return types and members.
* `Reader.read_withFields`: under a faithful source an extraction comes to the same.
-/

namespace Metatype

open Reporting

/-! ## Other fields -/

/-- A type with other fields. -/
def DeclaredType.withFields (change : DeclaredType → List Field) (t : DeclaredType) :
    DeclaredType :=
  { t with fields := change t }

/-- A change of fields keeps the markers on them and the constants of enumerations. -/
structure KeepsUses (change : DeclaredType → List Field) : Prop where
  markers : ∀ t : DeclaredType, (change t).flatMap (·.markers) = t.fields.flatMap (·.markers)
  enumerators : ∀ t : DeclaredType, (t.withFields change).enumerators = t.enumerators

/-- The constants of an enumeration and the fields with markers, in order. -/
def DeclaredType.usedFields (t : DeclaredType) : List Field :=
  t.fields.filter fun f => f.isEnumerator || !f.markers.isEmpty

/-- All other fields may go. -/
theorem DeclaredType.keepsUses_usedFields : KeepsUses usedFields where
  markers t := by
    unfold usedFields
    induction t.fields with
    | nil => rfl
    | cons f rest ih =>
      rw [List.filter_cons, List.flatMap_cons]
      split
      · rw [List.flatMap_cons, ih]
      · rename_i hunused
        have hmarkers : f.markers = [] := by
          simp only [Bool.or_eq_true, Bool.not_eq_true', not_or, Bool.not_eq_false] at hunused
          exact List.isEmpty_iff.1 hunused.2
        rw [hmarkers, List.nil_append, ih]
  enumerators t := by
    have hfilter : t.usedFields.filter (·.isEnumerator) = t.fields.filter (·.isEnumerator) := by
      rw [usedFields, List.filter_filter]
      exact List.filter_congr fun f _ => by cases f.isEnumerator <;> rfl
    exact congrArg (List.map (·.name)) hfilter

/-- An answer in which the type has other fields. -/
def Lookup.withFields (change : DeclaredType → List Field) : Lookup → Lookup
  | .found t => .found (t.withFields change)
  | .unknown => .unknown
  | .failed f => .failed f

theorem Lookup.exists_found_of_withFields {change : DeclaredType → List Field} {l : Lookup}
    {t' : DeclaredType} (h : l.withFields change = .found t') :
    ∃ t, l = .found t ∧ t' = t.withFields change := by
  cases l with
  | found t =>
    cases h
    exact ⟨t, rfl, rfl⟩
  | unknown => cases h
  | failed f => cases h

/-- A source whose types have other fields. -/
def Source.withFields (s : Source) (change : DeclaredType → List Field) : Source where
  lookup name := (s.lookup name).withFields change
  names := s.names
  mem_names h := by
    obtain ⟨t, ht, -⟩ := Lookup.exists_found_of_withFields h
    exact s.mem_names ht

/-- A reader whose source has types with other fields. -/
def Reader.withFields (r : Reader) (change : DeclaredType → List Field) : Reader :=
  { r with source := r.source.withFields change }

namespace Source

variable {s : Source} {change : DeclaredType → List Field} {name : String}

theorem lookup_withFields : (s.withFields change).lookup name = (s.lookup name).withFields change :=
  rfl

theorem lookup_withFields_of_found {t : DeclaredType} (h : s.lookup name = .found t) :
    (s.withFields change).lookup name = .found (t.withFields change) := by
  rw [lookup_withFields, h]
  rfl

theorem IsFaithful.withFields (h : s.IsFaithful) (change : DeclaredType → List Field) :
    (s.withFields change).IsFaithful := by
  intro name t' ht'
  obtain ⟨t, ht, rfl⟩ := Lookup.exists_found_of_withFields ht'
  exact h name t ht

end Source

/-! ## The search for collections -/

namespace CollectionLike

theorem search_withFields (s : Source) (change : DeclaredType → List Field) (todo : List Ancestor)
    (visited : List String) :
    search (s.withFields change) todo visited = search s todo visited := by
  -- By the cases of the search: the answers differ in fields alone, so both take the same branch.
  induction todo, visited using search_induction s with
  | nil visited => rw [search_nil, search_nil]
  | family a rest visited ha => rw [search_family ha, search_family ha]
  | skip a rest visited ha hv ih => rw [search_skip ha hv, search_skip ha hv, ih]
  | pass a rest visited ha hv hstop ih =>
    rw [search_pass ha hv rest hstop, search_pass ha hv rest, ih]
    intro t' ht'
    obtain ⟨t, ht, rfl⟩ := Lookup.exists_found_of_withFields ht'
    have hadmits : a.admits (t.withFields change) = a.admits t := by cases a <;> rfl
    rw [hadmits]
    exact hstop t ht
  | descend a rest visited t ha hv hf hadmits ihBelow ihAfter =>
    have hadmits' : a.admits (t.withFields change) = true := by
      cases a <;> exact hadmits
    have hbelow : search (s.withFields change) (ancestors (t.withFields change))
        (a.name :: visited) = search s (ancestors t) (a.name :: visited) := ihBelow
    rw [search_descend ha hv rest hf hadmits,
      search_descend ha hv rest (Source.lookup_withFields_of_found hf) hadmits', hbelow]
    split
    · rfl
    · rename_i hnone
      exact ihAfter hnone

theorem isCollectionLike_withFields (s : Source) (change : DeclaredType → List Field)
    (name : String) : isCollectionLike (s.withFields change) name = isCollectionLike s name := by
  unfold isCollectionLike
  rw [Source.lookup_withFields]
  cases s.lookup name with
  | found t =>
    have hsearch := search_withFields s change (ancestors t) [name]
    exact congrArg (fun b => !t.isAbstract && t.hasPublicConstructor && b.1) hsearch
  | unknown => rfl
  | failed f => rfl

end CollectionLike

/-! ## Members -/

namespace Reader

variable (r : Reader) {change : DeclaredType → List Field}

theorem mapType_withFields (change : DeclaredType → List Field)
    (owner member returnType : String) :
    (r.withFields change).mapType owner member returnType = r.mapType owner member returnType := by
  have hshape : TypeMapping.shape (r.withFields change).source = TypeMapping.shape r.source :=
    TypeMapping.shape_congr (CollectionLike.isCollectionLike_withFields r.source change)
  have haccepts : ∀ name, (r.withFields change).acceptsAsString name = r.acceptsAsString name := by
    intro name
    unfold acceptsAsString withFields
    rw [Source.lookup_withFields]
    cases r.source.lookup name <;> rfl
  have helement : ∀ name, (r.withFields change).elementType name = r.elementType name := by
    intro name
    unfold elementType
    rw [haccepts]
  unfold mapType
  rw [hshape]
  simp only [helement]

theorem offered_withFields (h : KeepsUses change) (element : String) :
    (r.withFields change).offered element = r.offered element := by
  unfold offered withFields
  rw [Source.lookup_withFields]
  split
  · rfl
  · cases r.source.lookup element with
    | found t =>
      have henumerators := h.enumerators t
      simp only [Lookup.withFields, henumerators]
      rfl
    | unknown => rfl
    | failed f => rfl

theorem isNestedElement_withFields (change : DeclaredType → List Field) (element : String) :
    (r.withFields change).isNestedElement element = r.isNestedElement element := by
  unfold isNestedElement withFields
  rw [Source.lookup_withFields]
  cases r.source.lookup element <;> rfl

theorem choiceProblems_withFields (change : DeclaredType → List Field)
    (owner member element : String) :
    (r.withFields change).choiceProblems owner member element =
      r.choiceProblems owner member element := by
  unfold choiceProblems withFields
  rw [Source.lookup_withFields]
  cases r.source.lookup element <;> rfl

theorem defaultProblems_withFields (change : DeclaredType → List Field)
    (member element : String) :
    (r.withFields change).defaultProblems member element = r.defaultProblems member element := by
  unfold defaultProblems withFields
  rw [Source.lookup_withFields]
  cases r.source.lookup element <;> rfl

theorem agreesOnMembers_withFields (h : KeepsUses change) :
    r.AgreesOnMembers (r.withFields change) where
  recognizer := rfl
  mapType := r.mapType_withFields change
  offered := r.offered_withFields h
  isNestedElement := r.isNestedElement_withFields change
  choiceProblems := r.choiceProblems_withFields change
  defaultProblems := r.defaultProblems_withFields change

/-! ## Types -/

theorem looseMarkers_withFields (h : KeepsUses change) (t : DeclaredType) :
    (t.withFields change).looseMarkers = t.looseMarkers :=
  congrArg (· ++ (t.methods.filter (·.isStatic)).flatMap (·.markers)) (h.markers t)

theorem typeExtensions_withFields (h : KeepsUses change) (t : DeclaredType) :
    r.typeExtensions (t.withFields change) = r.typeExtensions t := by
  unfold typeExtensions
  rw [looseMarkers_withFields h]
  rfl

/-- A type that does not count as the root has the same problems. -/
theorem visitProblems_withFields (h : KeepsUses change) (t : DeclaredType) :
    r.visitProblems (t.withFields change) false = r.visitProblems t false := by
  unfold visitProblems
  rw [looseMarkers_withFields h, Field.lastPrefix?_false, Field.lastPrefix?_false]
  rfl

/-! ## The walk -/

end Reader

/-- A step of the walk in which the type that is visited has other fields. -/
def Ancestry.Step.withFields (change : DeclaredType → List Field) : Step → Step
  | .visit t => .visit (t.withFields change)
  | .unknown name owner => .unknown name owner
  | .failed name owner f => .failed name owner f

theorem Ancestry.Step.visited?_withFields (change : DeclaredType → List Field) (s : Step) :
    (s.withFields change).visited? = s.visited?.map (·.withFields change) := by
  cases s <;> rfl

theorem Ancestry.follow_withFields (r : Reader) (change : DeclaredType → List Field)
    (owner : String) (names visited : List String) :
    follow (r.withFields change).route owner names visited =
      ((follow r.route owner names visited).1.map (·.withFields change),
        (follow r.route owner names visited).2) := by
  -- By the cases of the walk; the names it has visited by then are the same.
  induction owner, names, visited using follow_induction r.route with
  | nil owner visited =>
    rw [follow_nil, follow_nil]
    rfl
  | skip owner name rest visited h ih =>
    rw [follow_skip h, follow_skip (r := (r.withFields change).route) h]
    exact ih
  | pass owner name rest visited h hstop ih =>
    have hstop' : ∀ t', (r.withFields change).route.source.lookup name = .found t' →
        (r.withFields change).route.goOn t' = false := by
      intro t' ht'
      obtain ⟨t, ht, -⟩ := Lookup.exists_found_of_withFields ht'
      exact hstop t ht
    have hanswer : Mention.answer (r.withFields change).route.source ⟨owner, name⟩ =
        (Mention.answer r.route.source ⟨owner, name⟩).withFields change := by
      have hlookup : (r.withFields change).route.source.lookup name =
          (r.route.source.lookup name).withFields change := rfl
      unfold Mention.answer
      rw [hlookup]
      cases r.route.source.lookup name <;> rfl
    rw [follow_pass h rest hstop, follow_pass (r := (r.withFields change).route) h rest hstop', ih,
      hanswer]
    rfl
  | descend owner name rest visited t h hf hgo ihAbove ihAfter =>
    have hf' : (r.withFields change).route.source.lookup name = .found (t.withFields change) :=
      Source.lookup_withFields_of_found hf
    have habove : follow (r.withFields change).route (t.withFields change).name
        (t.withFields change).interfaces (name :: visited) = _ := ihAbove
    rw [follow_descend h rest hf hgo,
      follow_descend (r := (r.withFields change).route) h rest hf' rfl, habove, ihAfter]
    simp only [List.map_cons, List.map_append, Step.withFields]

namespace Reader

variable (r : Reader) {change : DeclaredType → List Field}

theorem stepsAbove_withFields (change : DeclaredType → List Field) (root : DeclaredType) :
    (r.withFields change).stepsAbove root = (r.stepsAbove root).map (·.withFields change) := by
  rw [stepsAbove, stepsAbove, Ancestry.follow_withFields]

theorem ancestors_withFields (change : DeclaredType → List Field) (root : DeclaredType) :
    (r.withFields change).ancestors root = (r.ancestors root).map (·.withFields change) := by
  unfold ancestors
  rw [stepsAbove_withFields, List.filterMap_map, List.map_filterMap]
  congr 1
  funext s
  exact s.visited?_withFields change

/-! ## An extraction -/

theorem outcome_withFields (hfaithful : r.source.IsFaithful) (h : KeepsUses change)
    (root : DeclaredType) : (r.withFields change).outcome root = r.outcome root := by
  have hagrees := r.agreesOnMembers_withFields h
  have hattributes : ∀ keyPrefix,
      ((r.withFields change).lineage root).flatMap
          ((r.withFields change).typeAttributes keyPrefix) =
        (r.lineage root).flatMap (r.typeAttributes keyPrefix) := by
    intro keyPrefix
    rw [funext (hagrees.onAttributes.typeAttributes keyPrefix), lineage_eq_cons, lineage_eq_cons,
      ancestors_withFields, List.flatMap_cons, List.flatMap_cons, List.flatMap_map]
    rfl
  have hextensions : ((r.withFields change).lineage root).flatMap
      (r.withFields change).typeExtensions = (r.lineage root).flatMap r.typeExtensions := by
    rw [funext hagrees.onAttributes.typeExtensions, lineage_eq_cons, lineage_eq_cons, ancestors_withFields,
      List.flatMap_cons, List.flatMap_cons, List.flatMap_map,
      funext (r.typeExtensions_withFields h)]
  have hlatest : ((r.withFields change).lineage root).any (·.usesLatest) =
      (r.lineage root).any (·.usesLatest) := by
    rw [lineage_eq_cons, lineage_eq_cons, ancestors_withFields, List.any_cons, List.any_cons,
      List.any_map]
    rfl
  rw [outcome_of_faithful _ (hfaithful.withFields change), r.outcome_of_faithful hfaithful,
    hattributes, hextensions, hlatest]
  rfl

theorem problems_withFields (hfaithful : r.source.IsFaithful) (h : KeepsUses change)
    (root : DeclaredType) : (r.withFields change).problems root = r.problems root := by
  have hagrees := r.agreesOnMembers_withFields h
  have hstep : ∀ s ∈ r.stepsAbove root,
      r.stepProblems root.name (s.withFields change) = r.stepProblems root.name s := by
    intro s hs
    cases s with
    | visit t =>
      have hname : decide (t.name = root.name) = false :=
        decide_eq_false (name_ne_of_visit hfaithful root hs)
      have hvisit := r.visitProblems_withFields h t
      rw [← hname] at hvisit
      exact hvisit
    | unknown name owner => rfl
    | failed name owner f => rfl
  unfold problems
  rw [hagrees.visitProblems, funext (hagrees.stepProblems root.name), stepsAbove_withFields,
    List.flatMap_map, List.flatMap_congr hstep]

/-- Whatever fields the types of a faithful source have, with the same markers and constants an
extraction from a root gives the same object class and reports the same problems. -/
theorem read_withFields (hfaithful : r.source.IsFaithful) (h : KeepsUses change)
    (root : DeclaredType) (before : Report) :
    ((r.withFields change).read root).run before = (r.read root).run before := by
  rw [(r.withFields change).yields_read root before, r.yields_read root before,
    r.outcome_withFields hfaithful h, r.problems_withFields hfaithful h]

end Reader

end Metatype
