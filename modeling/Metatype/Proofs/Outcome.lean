import Mathlib.Data.List.Basic
import Metatype.Proofs.Accounting

/-!
# The outcome of an extraction

An extraction is determined by its root and the types that it visits: its object class and its
problems are given here as functions of these. No source is assumed to be faithful, so a visited
type may have the name of the root and give a prefix of its own.

* `Reader.collected_of_declared`: what a type adds to an object class.
* `Reader.objectClass_collectedAll`: what types add that are collected one after another.
* `Reader.yields_read`: the object class and the problems of an extraction.
* `Reader.mapM_readType`: extractions that share a report.
-/

namespace Metatype

open Reporting

/-! ## Revisions that are needed -/

/-- The revision, or the latest one if that is needed. -/
def Revision.orLatest (current : Revision) (needed : Bool) : Revision :=
  if needed then .v1_4 else current

namespace Revision

theorem raise_latest (current : Revision) : current.raise .v1_4 = .v1_4 := by
  cases current <;> decide

theorem orLatest_orLatest (current : Revision) (a b : Bool) :
    (current.orLatest a).orLatest b = current.orLatest (a || b) := by
  cases a <;> cases b <;> rfl

end Revision

theorem ObjectClass.raise_latest (o : ObjectClass) :
    o.raise .v1_4 = { o with revision := .v1_4 } := by
  rw [raise, Revision.raise_latest]

/-- Whether the key of a method is written with a hyphen. -/
def Method.hasHyphen (m : Method) : Bool := PropertyKey.pieces m.name.toList |>.contains .hyphen

/-- Of all keys, those with a hyphen need a revision. The name `value` has none, so that it makes no
difference whether there is a shorthand key. -/
theorem Reader.requires_memberKey (shorthand : Option String) (m : Method) :
    (memberKey shorthand m.name).requires = if m.hasHyphen then some .v1_4 else none := by
  have hidentifier : (PropertyKey.ofIdentifier m.name).requires =
      if m.hasHyphen then some .v1_4 else none := by
    simp [PropertyKey.ofIdentifier, Method.hasHyphen]
  unfold memberKey
  split
  · split
    · rename_i hvalue
      have hplain : m.hasHyphen = false := by
        rw [Method.hasHyphen, hvalue]
        decide
      rw [hplain]
      rfl
    · exact hidentifier
  · exact hidentifier

namespace DeclaredType

/-- The prefix that a type gives to the keys, if it counts as the root. -/
def givenPrefix? (isRoot : Bool) (t : DeclaredType) : Option String :=
  (Field.lastPrefix? isRoot t.fields).bind Field.keyPrefix?

/-- The key of a member of a type before a prefix is put to it: the shorthand key for `value` if the
type has one, and what the name stands for otherwise. -/
def plainKey (t : DeclaredType) (m : Method) : String :=
  (Reader.memberKey t.shorthand? m.name).key

/-- Whether an element of a type needs the latest revision, or the shorthand key. -/
def usesLatest (t : DeclaredType) : Bool :=
  t.shorthand?.isSome || t.elements.any (·.hasHyphen)

/-- Whether a type needs the latest revision. -/
def needsLatest (isRoot : Bool) (t : DeclaredType) : Bool :=
  (t.givenPrefix? isRoot).isSome || t.usesLatest

/-- The first object class marker on an interface. -/
def objectClassMarker? (t : DeclaredType) : Option ObjectClassMarker :=
  if t.isInterface then (t.markers.filterMap Marker.objectClass?).head? else none

end DeclaredType

/-! ## What a type adds -/

namespace Reader

variable (r : Reader)

/-- The extension attributes that a type adds to the object class. -/
def typeExtensions (t : DeclaredType) : List Extension :=
  (t.markers ++ t.looseMarkers).filterMap (r.looseExtension? t)

/-- The attributes of the elements of a type, under a prefix. -/
def typeAttributes (keyPrefix : Option String) (t : DeclaredType) : List Attribute :=
  t.elements.map (r.memberAttribute t.kind t.name keyPrefix t.shorthand?)

theorem ids_typeAttributes (keyPrefix : Option String) (t : DeclaredType) :
    (r.typeAttributes keyPrefix t).map (·.id) =
      (t.elements.map t.plainKey).map (keyPrefix.getD "" ++ ·) := by
  rw [typeAttributes, List.map_map, List.map_map]
  rfl

/-- Settled members add the attributes of the elements among them, and need the latest revision for
a hyphen. -/
theorem settleAll_of_some (t : DeclaredType) (shorthand keyPrefix : Option String)
    (members : List Method) (o : ObjectClass) :
    members.foldl (r.settled t shorthand) ⟨some o, keyPrefix⟩ =
      ⟨some { o with
          attributes := o.attributes ++ (members.filter (·.isElement)).map
            (r.memberAttribute t.kind t.name keyPrefix shorthand)
          revision := o.revision.orLatest ((members.filter (·.isElement)).any (·.hasHyphen)) },
        keyPrefix⟩ := by
  induction members generalizing o with
  | nil => simp [Revision.orLatest]
  | cons m rest ih =>
    rw [List.foldl_cons]
    by_cases hm : m.isElement = true
    · have hstep : r.settled t shorthand ⟨some o, keyPrefix⟩ m =
          ⟨some { o with
              attributes :=
                o.attributes ++ [r.memberAttribute t.kind t.name keyPrefix shorthand m]
              revision := o.revision.orLatest m.hasHyphen }, keyPrefix⟩ := by
        rw [settled, if_pos hm, requires_memberKey]
        cases m.hasHyphen with
        | true =>
          simp only [if_true, Draft.raise, Draft.push, Option.map_some, ObjectClass.raise_latest,
            ObjectClass.push, Revision.orLatest]
        | false =>
          simp only [Bool.false_eq_true, if_false, Draft.push, Option.map_some, ObjectClass.push,
            Revision.orLatest]
      rw [hstep, ih, List.filter_cons_of_pos hm, List.map_cons, List.any_cons,
        ← Revision.orLatest_orLatest]
      simp only [List.append_assoc, List.singleton_append]
    · have hstep : r.settled t shorthand ⟨some o, keyPrefix⟩ m = ⟨some o, keyPrefix⟩ := by
        rw [settled, if_neg hm]
      rw [hstep, ih, List.filter_cons_of_neg hm]

theorem opened_of_declared {t : DeclaredType} (isRoot : Bool) {d : Draft} {o : ObjectClass}
    (h : r.declared t t.markers d = ⟨some o, d.keyPrefix⟩) :
    r.opened t isRoot d =
      ⟨some { o with
          extensions := o.extensions ++ r.typeExtensions t
          revision :=
            o.revision.orLatest ((t.givenPrefix? isRoot).isSome || t.shorthand?.isSome) },
        (t.givenPrefix? isRoot).or d.keyPrefix⟩ := by
  unfold opened
  rw [h]
  unfold Draft.withPrefix
  change (if t.shorthand?.isSome = true then _ else _) = _
  cases hgiven : t.givenPrefix? isRoot with
  | none =>
    have hbind : (Field.lastPrefix? isRoot t.fields).bind Field.keyPrefix? = none := hgiven
    cases t.shorthand?.isSome <;>
      simp [hbind, Draft.raise, Draft.extend, ObjectClass.raise_latest, Revision.orLatest,
        typeExtensions]
  | some p =>
    have hbind : (Field.lastPrefix? isRoot t.fields).bind Field.keyPrefix? = some p := hgiven
    cases t.shorthand?.isSome <;>
      simp [hbind, Draft.raise, Draft.extend, ObjectClass.raise_latest, Revision.orLatest,
        typeExtensions]

/-- A type that is collected adds its attributes and its extension attributes to the object class. It
raises the revision if it needs the latest one. -/
theorem collected_of_declared {t : DeclaredType} (isRoot : Bool) {d : Draft} {o : ObjectClass}
    (h : r.declared t t.markers d = ⟨some o, d.keyPrefix⟩) :
    r.collected t isRoot d =
      ⟨some { o with
          attributes :=
            o.attributes ++ r.typeAttributes ((t.givenPrefix? isRoot).or d.keyPrefix) t
          extensions := o.extensions ++ r.typeExtensions t
          revision := o.revision.orLatest (t.needsLatest isRoot) },
        (t.givenPrefix? isRoot).or d.keyPrefix⟩ := by
  have hsome : (r.declared t t.markers d).objectClass.isSome = true := by
    rw [h]
    rfl
  rw [collected, if_pos hsome, r.opened_of_declared isRoot h, settleAll_of_some,
    Revision.orLatest_orLatest, Bool.or_assoc]
  rfl

/-! ## Readers that agree on members -/

/-- Two readers give a member the same attribute. -/
structure AgreesOnAttribute (r' : Reader) (owner : String) (m : Method) : Prop where
  recognizer : r'.recognizer = r.recognizer
  mapped : r'.mapped owner m = r.mapped owner m
  offered : r'.offered (r.mapped owner m).element = r.offered (r.mapped owner m).element
  isNestedElement : r'.isNestedElement m.elementType = r.isNestedElement m.elementType

theorem AgreesOnAttribute.memberAttribute {r r' : Reader} {owner : String} {m : Method}
    (h : r.AgreesOnAttribute r' owner m) (kind : Kind) (keyPrefix shorthand : Option String) :
    r'.memberAttribute kind owner keyPrefix shorthand m =
      r.memberAttribute kind owner keyPrefix shorthand m := by
  simp only [Reader.memberAttribute, elementDefaults, h.mapped, h.offered, h.isNestedElement,
    h.recognizer]

/-- Two readers take a member for the same. -/
structure AgreesOnMember (r' : Reader) (owner : String) (m : Method) : Prop where
  recognizer : r'.recognizer = r.recognizer
  mapType : r'.mapType owner m.name m.returnType = r.mapType owner m.name m.returnType
  offered : r'.offered (r.mapped owner m).element = r.offered (r.mapped owner m).element
  isNestedElement : r'.isNestedElement m.elementType = r.isNestedElement m.elementType
  choiceProblems : r'.choiceProblems owner m.name (r.mapped owner m).element =
    r.choiceProblems owner m.name (r.mapped owner m).element
  defaultProblems : r'.defaultProblems m.name m.elementType =
    r.defaultProblems m.name m.elementType

namespace AgreesOnMember

variable {r} {r' : Reader} {owner : String} {m : Method} (h : r.AgreesOnMember r' owner m)

include h

theorem onAttribute : r.AgreesOnAttribute r' owner m where
  recognizer := h.recognizer
  mapped := by rw [Reader.mapped, Reader.mapped, h.mapType]
  offered := h.offered
  isNestedElement := h.isNestedElement

theorem elementProblems (kind : Kind) :
    r'.elementProblems kind owner m = r.elementProblems kind owner m := by
  simp only [Reader.elementProblems, h.mapType, h.onAttribute.mapped, h.choiceProblems,
    h.defaultProblems]

end AgreesOnMember

section

variable {r} {r' : Reader} {t : DeclaredType}

theorem typeAttributes_congr (h : ∀ m ∈ t.elements, r.AgreesOnAttribute r' t.name m)
    (keyPrefix : Option String) : r'.typeAttributes keyPrefix t = r.typeAttributes keyPrefix t :=
  List.map_congr_left fun m hm => (h m hm).memberAttribute t.kind keyPrefix _

theorem typeExtensions_congr (h : r'.recognizer = r.recognizer) (t : DeclaredType) :
    r'.typeExtensions t = r.typeExtensions t := by
  have hloose : r'.looseExtension? t = r.looseExtension? t := by
    funext m
    rw [looseExtension?, looseExtension?, h]
  rw [typeExtensions, typeExtensions, hloose]

theorem visitProblems_congr (h : ∀ m ∈ t.elements, r.AgreesOnMember r' t.name m)
    (isRoot : Bool) : r'.visitProblems t isRoot = r.visitProblems t isRoot := by
  have hmembers : t.members.flatMap (r'.memberProblems t) =
      t.members.flatMap (r.memberProblems t) := by
    refine List.flatMap_congr fun m hm => ?_
    unfold memberProblems
    by_cases helement : m.isElement = true
    · rw [(h m (List.mem_filter.2 ⟨hm, helement⟩)).elementProblems]
    · -- Of any other member neither reader asks anything.
      simp only [Method.isElement, Bool.and_eq_true, Bool.not_eq_true', not_and] at helement
      cases hconstructor : m.isConstructor with
      | true => rw [if_pos rfl, if_pos rfl]
      | false => rw [if_neg (helement hconstructor), if_neg (helement hconstructor)]
  rw [visitProblems, visitProblems, hmembers]

end

/-- Two readers give every element of a type the same attribute. -/
structure AgreesOnAttributes (r' : Reader) : Prop where
  recognizer : r'.recognizer = r.recognizer
  mapped : ∀ owner m, r'.mapped owner m = r.mapped owner m
  offered : ∀ element, r'.offered element = r.offered element
  isNestedElement : ∀ element, r'.isNestedElement element = r.isNestedElement element

namespace AgreesOnAttributes

variable {r} {r' : Reader} (h : r.AgreesOnAttributes r')

include h

theorem onAttribute (owner : String) (m : Method) : r.AgreesOnAttribute r' owner m where
  recognizer := h.recognizer
  mapped := h.mapped owner m
  offered := h.offered _
  isNestedElement := h.isNestedElement _

theorem typeAttributes (keyPrefix : Option String) (t : DeclaredType) :
    r'.typeAttributes keyPrefix t = r.typeAttributes keyPrefix t :=
  typeAttributes_congr (fun m _ => h.onAttribute t.name m) keyPrefix

theorem typeExtensions (t : DeclaredType) : r'.typeExtensions t = r.typeExtensions t :=
  typeExtensions_congr h.recognizer t

end AgreesOnAttributes

/-- Two readers take every member of a type for the same. -/
structure AgreesOnMembers (r' : Reader) : Prop where
  recognizer : r'.recognizer = r.recognizer
  mapType : ∀ owner member returnType,
    r'.mapType owner member returnType = r.mapType owner member returnType
  offered : ∀ element, r'.offered element = r.offered element
  isNestedElement : ∀ element, r'.isNestedElement element = r.isNestedElement element
  choiceProblems : ∀ owner member element,
    r'.choiceProblems owner member element = r.choiceProblems owner member element
  defaultProblems : ∀ member element,
    r'.defaultProblems member element = r.defaultProblems member element

namespace AgreesOnMembers

variable {r} {r' : Reader} (h : r.AgreesOnMembers r')

include h

theorem onAttributes : r.AgreesOnAttributes r' where
  recognizer := h.recognizer
  mapped owner m := by rw [Reader.mapped, Reader.mapped, h.mapType]
  offered := h.offered
  isNestedElement := h.isNestedElement

theorem onMember (owner : String) (m : Method) : r.AgreesOnMember r' owner m where
  recognizer := h.recognizer
  mapType := h.mapType _ _ _
  offered := h.offered _
  isNestedElement := h.isNestedElement _
  choiceProblems := h.choiceProblems _ _ _
  defaultProblems := h.defaultProblems _ _

theorem visitProblems (t : DeclaredType) (isRoot : Bool) :
    r'.visitProblems t isRoot = r.visitProblems t isRoot :=
  visitProblems_congr (fun m _ => h.onMember t.name m) isRoot

theorem stepProblems (rootName : String) (s : Ancestry.Step) :
    r'.stepProblems rootName s = r.stepProblems rootName s := by
  cases s with
  | visit t => exact h.visitProblems t _
  | unknown name owner => rfl
  | failed name owner f => rfl

end AgreesOnMembers

/-! ## Types one after another -/

end Reader

/-- A visited type, with the prefix that the keys have by then. -/
structure Visit where
  type : DeclaredType
  keyPrefix : Option String

/-- The visits of types, one after another. Types with the name of the root may give a prefix. -/
def Visit.along (rootName : String) (keyPrefix : Option String) :
    List DeclaredType → List Visit
  | [] => []
  | t :: rest =>
    let keyPrefix := (t.givenPrefix? (t.name = rootName)).or keyPrefix
    ⟨t, keyPrefix⟩ :: along rootName keyPrefix rest

theorem Visit.map_type_along (rootName : String) (keyPrefix : Option String)
    (types : List DeclaredType) : (along rootName keyPrefix types).map (·.type) = types := by
  induction types generalizing keyPrefix with
  | nil => rfl
  | cons t rest ih => rw [along, List.map_cons, ih]

/-- If only the first type has the name of the root, its prefix stays. -/
theorem Visit.along_of_ne {rootName : String} {types : List DeclaredType}
    (h : ∀ t ∈ types, t.name ≠ rootName) (keyPrefix : Option String) :
    along rootName keyPrefix types = types.map (⟨·, keyPrefix⟩) := by
  induction types with
  | nil => rfl
  | cons t rest ih =>
    have hroot : decide (t.name = rootName) = false :=
      decide_eq_false (h t List.mem_cons_self)
    have hgiven : t.givenPrefix? (t.name = rootName) = none := by
      rw [hroot, DeclaredType.givenPrefix?, Field.lastPrefix?_false, Option.bind_none]
    rw [along, hgiven, Option.none_or, ih fun t ht => h t (List.mem_cons_of_mem _ ht),
      List.map_cons]

namespace Reader

variable (r : Reader)

/-- The attributes of the elements of visited types. -/
def visitAttributes (visits : List Visit) : List Attribute :=
  visits.flatMap fun v => r.typeAttributes v.keyPrefix v.type

theorem objectClass_collectedAll (rootName : String) (keyPrefix : Option String)
    (types : List DeclaredType) (o : ObjectClass) :
    (r.collectedAll rootName ⟨some o, keyPrefix⟩ types).objectClass =
      some { o with
        attributes := o.attributes ++ r.visitAttributes (Visit.along rootName keyPrefix types)
        extensions := o.extensions ++ types.flatMap r.typeExtensions
        revision :=
          o.revision.orLatest (types.any fun t => t.needsLatest (t.name = rootName)) } := by
  -- The prefix is generalized because a type with the name of the root may give another one.
  induction types generalizing keyPrefix o with
  | nil => simp [collectedAll, Visit.along, visitAttributes, Revision.orLatest]
  | cons t rest ih =>
    have hdeclared : r.declared t t.markers ⟨some o, keyPrefix⟩ = ⟨some o, keyPrefix⟩ :=
      r.declared_of_isSome t t.markers rfl
    have hstep := r.collected_of_declared (t.name = rootName) hdeclared
    rw [collectedAll, List.foldl_cons, hstep]
    refine (ih _ _).trans ?_
    rw [Visit.along, visitAttributes, visitAttributes, List.flatMap_cons, List.flatMap_cons,
      List.any_cons, Revision.orLatest_orLatest, List.append_assoc, List.append_assoc]

/-! ## An extraction -/

/-- The visits of an extraction: the root and its ancestors. -/
def visits (root : DeclaredType) : List Visit := Visit.along root.name none (r.lineage root)

/-- The object class of an extraction: what the marker on the root declares, with what the visited
types add. -/
def outcome (root : DeclaredType) : Option ObjectClass :=
  root.objectClassMarker?.map fun m =>
    { m.objectClass root.name r.floor with
      attributes := r.visitAttributes (r.visits root)
      extensions := (r.lineage root).flatMap r.typeExtensions
      revision :=
        r.floor.orLatest ((r.lineage root).any fun t => t.needsLatest (t.name = root.name)) }

/-- Readers that visit the same types and give their elements the same attributes give the same
object class. -/
theorem outcome_congr {r r' : Reader} {root : DeclaredType} (hfloor : r'.floor = r.floor)
    (hlineage : r'.lineage root = r.lineage root) (hrecognizer : r'.recognizer = r.recognizer)
    (h : ∀ t ∈ r.lineage root, ∀ m ∈ t.elements, r.AgreesOnAttribute r' t.name m) :
    r'.outcome root = r.outcome root := by
  have hvisits : r'.visits root = r.visits root := by
    rw [visits, visits, hlineage]
  have hattributes : r'.visitAttributes (r.visits root) = r.visitAttributes (r.visits root) := by
    refine List.flatMap_congr fun v hv => typeAttributes_congr (h v.type ?_) v.keyPrefix
    rw [← Visit.map_type_along root.name none (r.lineage root)]
    exact List.mem_map_of_mem hv
  rw [outcome, outcome, hvisits, hfloor, hlineage, hattributes,
    funext (typeExtensions_congr hrecognizer)]

theorem AgreesOnAttributes.outcome {r r' : Reader} (h : r.AgreesOnAttributes r')
    {root : DeclaredType} (hfloor : r'.floor = r.floor)
    (hlineage : r'.lineage root = r.lineage root) : r'.outcome root = r.outcome root :=
  outcome_congr hfloor hlineage h.recognizer fun t _ m _ => h.onAttribute t.name m

/-- The problems of an extraction. -/
def problems (root : DeclaredType) : List Diagnostic :=
  if root.objectClassMarker?.isSome then
    r.visitProblems root true ++ (r.stepsAbove root).flatMap (r.stepProblems root.name)
  else
    root.markers.flatMap (root.headProblems root.isInterface) ++
      root.looseMarkers.flatMap root.looseProblems

/-- Readers that take the same steps and the elements of the types for the same report the same
problems. -/
theorem problems_congr {r r' : Reader} {root : DeclaredType}
    (hsteps : r'.stepsAbove root = r.stepsAbove root)
    (h : ∀ t ∈ r.lineage root, ∀ m ∈ t.elements, r.AgreesOnMember r' t.name m) :
    r'.problems root = r.problems root := by
  have hroot := visitProblems_congr (h root (by simp [lineage_eq])) true
  have hstep : ∀ s ∈ r.stepsAbove root,
      r'.stepProblems root.name s = r.stepProblems root.name s := by
    intro s hs
    cases s with
    | visit t =>
      have ht : t ∈ r.lineage root := by
        rw [lineage_eq]
        exact List.mem_cons_of_mem _ (List.mem_filterMap.2 ⟨_, hs, rfl⟩)
      exact visitProblems_congr (h t ht) _
    | unknown name owner => rfl
    | failed name owner f => rfl
  rw [problems, problems, hroot, hsteps, List.flatMap_congr hstep]

theorem declared_empty (root : DeclaredType) :
    r.declared root root.markers {} =
      ⟨root.objectClassMarker?.map (·.objectClass root.name r.floor), none⟩ := by
  unfold declared DeclaredType.objectClassMarker?
  cases root.isInterface <;> rfl

/-- An extraction gives this object class, if the root declares one, and reports these problems,
whatever the source answers. -/
theorem yields_read (root : DeclaredType) :
    Yields (r.read root) (r.outcome root) (r.problems root) := by
  have hdeclared := r.declared_empty root
  unfold outcome problems
  cases hmarker : root.objectClassMarker? with
  | none =>
    rw [hmarker, Option.map_none] at hdeclared
    have hnone : (r.declared root root.markers {}).objectClass.isSome = false := by
      rw [hdeclared]
      rfl
    have hcollected : r.collected root true {} = r.declared root root.markers {} := by
      rw [collected, hnone, if_neg Bool.false_ne_true]
    have hundeclared : (r.collected root true {}).objectClass.isSome = false := by
      rw [hcollected]
      exact hnone
    have hread := r.yields_read_undeclared hundeclared
    rw [collectProblems, hnone, if_neg Bool.false_ne_true, List.append_nil] at hread
    exact hread
  | some m =>
    rw [hmarker, Option.map_some] at hdeclared
    have hcollected := r.collected_of_declared true (d := {}) hdeclared
    have hsome : (r.collected root true {}).objectClass.isSome = true := by
      rw [hcollected]
      rfl
    have hproblems : r.collectProblems root true {} = r.visitProblems root true := by
      have hinterface : root.isInterface = true := by
        unfold DeclaredType.objectClassMarker? at hmarker
        split at hmarker
        · assumption
        · cases hmarker
      have hdeclaredSome : (r.declared root root.markers {}).objectClass.isSome = true := by
        rw [hdeclared]
        rfl
      rw [collectProblems, if_pos hdeclaredSome, hinterface, Bool.or_true, visitProblems]
    have hread := r.yields_read_declared hsome
    rw [hproblems, hcollected, objectClass_collectedAll, m.attributes_objectClass,
      m.extensions_objectClass, m.revision_objectClass, Revision.orLatest_orLatest] at hread
    have hroot : decide (root.name = root.name) = true := decide_eq_true rfl
    rw [Option.map_some, Option.isSome_some, if_pos rfl, visits, lineage_eq, Visit.along,
      List.any_cons, hroot]
    exact hread

theorem isSome_outcome (root : DeclaredType) :
    (r.outcome root).isSome = root.objectClassMarker?.isSome := Option.isSome_map

theorem attributes_of_outcome {root : DeclaredType} {o : ObjectClass}
    (h : r.outcome root = some o) : o.attributes = r.visitAttributes (r.visits root) := by
  obtain ⟨m, -, rfl⟩ := Option.map_eq_some_iff.1 h
  rfl

theorem exists_run_read (root : DeclaredType) (h : root.objectClassMarker?.isSome = true)
    (before : Report) : ∃ o after, (r.read root).run before = (some o, after) := by
  obtain ⟨o, ho⟩ := Option.isSome_iff_exists.1 ((r.isSome_outcome root).trans h)
  exact ⟨o, _, by rw [r.yields_read root before, ho]⟩

theorem extract_of_found {name : String} {root : DeclaredType}
    (h : r.source.lookup name = .found root) :
    r.extract name = { objectClass := r.outcome root, report := ⟨r.problems root⟩ } := by
  have hread : (r.readType name).run {} = (r.outcome root, ⟨r.problems root⟩) := by
    rw [readType, h]
    exact r.yields_read root {}
  rw [extract, hread]

/-- What an extraction gives and reports, read off a run. -/
theorem outcome_of_run_read {root : DeclaredType} {before after : Report} {o : ObjectClass}
    (h : (r.read root).run before = (some o, after)) :
    r.outcome root = some o ∧ after.items = before.items ++ r.problems root := by
  rw [r.yields_read root before] at h
  obtain ⟨ho, hafter⟩ := Prod.mk.inj h
  exact ⟨ho, (congrArg Report.items hafter).symm⟩

/-! ## Faithful sources -/

/-- The ancestors of a root, in the order of the walk. -/
def ancestors (root : DeclaredType) : List DeclaredType :=
  (r.stepsAbove root).filterMap Ancestry.Step.visited?

theorem lineage_eq_cons (root : DeclaredType) : r.lineage root = root :: r.ancestors root :=
  r.lineage_eq root

theorem name_ne_of_mem_ancestors (hfaithful : r.source.IsFaithful) {root t : DeclaredType}
    (h : t ∈ r.ancestors root) : t.name ≠ root.name := by
  obtain ⟨s, hs, ht⟩ := List.mem_filterMap.1 h
  cases s with
  | visit u =>
    cases ht
    exact name_ne_of_visit hfaithful root hs
  | unknown name owner => cases ht
  | failed name owner f => cases ht

/-- Under a faithful source the keys have the prefix of the root from the start. -/
theorem visits_of_faithful (hfaithful : r.source.IsFaithful) (root : DeclaredType) :
    r.visits root = (r.lineage root).map (⟨·, root.givenPrefix? true⟩) := by
  have hroot : decide (root.name = root.name) = true := decide_eq_true rfl
  rw [visits, lineage_eq_cons, Visit.along, hroot, Option.or_none,
    Visit.along_of_ne fun t ht => r.name_ne_of_mem_ancestors hfaithful ht]
  rfl

/-- Under a faithful source only the root needs the latest revision for its prefix. -/
theorem needsLatest_of_faithful (hfaithful : r.source.IsFaithful) (root : DeclaredType) :
    ((r.lineage root).any fun t => t.needsLatest (t.name = root.name)) =
      ((root.givenPrefix? true).isSome || (r.lineage root).any (·.usesLatest)) := by
  have hroot : decide (root.name = root.name) = true := decide_eq_true rfl
  have hancestors : ((r.ancestors root).any fun t => t.needsLatest (t.name = root.name)) =
      (r.ancestors root).any (·.usesLatest) := by
    have hmap : (r.ancestors root).map (fun t => t.needsLatest (t.name = root.name)) =
        (r.ancestors root).map (·.usesLatest) := by
      refine List.map_congr_left fun t ht => ?_
      have hname := decide_eq_false (r.name_ne_of_mem_ancestors hfaithful ht)
      rw [hname, DeclaredType.needsLatest, DeclaredType.givenPrefix?, Field.lastPrefix?_false]
      rfl
    have hany := congrArg (fun l => List.any l id) hmap
    rwa [List.any_map, List.any_map] at hany
  rw [lineage_eq_cons, List.any_cons, List.any_cons, hancestors, hroot, DeclaredType.needsLatest,
    Bool.or_assoc]

/-- The object class of an extraction under a faithful source. -/
theorem outcome_of_faithful (hfaithful : r.source.IsFaithful) (root : DeclaredType) :
    r.outcome root = root.objectClassMarker?.map fun m =>
      { m.objectClass root.name r.floor with
        attributes := (r.lineage root).flatMap (r.typeAttributes (root.givenPrefix? true))
        extensions := (r.lineage root).flatMap r.typeExtensions
        revision := r.floor.orLatest
          ((root.givenPrefix? true).isSome || (r.lineage root).any (·.usesLatest)) } := by
  rw [outcome, r.needsLatest_of_faithful hfaithful, r.visits_of_faithful hfaithful,
    visitAttributes, List.flatMap_map]

/-! ## Extractions that share a report -/

/-- The extraction of a name gives what it gives on its own, and adds the problems that it has on its
own. -/
theorem yields_readType (name : String) :
    Yields (r.readType name) (r.extract name).objectClass (r.extract name).report.items := by
  have hensures : Ensures (r.readType name) fun _ => True := by
    unfold readType
    split
    · exact (r.yields_read _).ensures trivial
    · exact ((yields_error _ _).then_pure _).ensures trivial
    · exact ((yields_failure _ _ _).then_pure _).ensures trivial
  obtain ⟨_, _, hyields, -⟩ := hensures
  exact hyields.self

/-- Extractions that share a report do not influence each other. Each gives the object class that it
gives on its own. In the end the problems reported before stand unchanged at the head of the report,
and those of the extractions follow, each as it reports them on its own. -/
theorem mapM_readType (names : List String) (before : Report) :
    (names.mapM r.readType).run before =
      (names.map fun name => (r.extract name).objectClass,
        ⟨before.items ++ names.flatMap fun name => (r.extract name).report.items⟩) :=
  yields_mapM r.yields_readType names before

end Reader

end Metatype
