import Mathlib.Data.List.Forall2
import Metatype.Proofs.Outcome

/-!
# The option for interfaces as return types

With the option a member may return an interface, and its attribute is a string. Nothing else depends
on it: without the option such a member gives the same attribute without a type, and is reported.

* `Reader.Verdict.Relaxes`: what the option makes of the verdict on a type.
* `Reader.relaxes_returnVerdict`: of the verdict on a return type.
* `Reader.relaxes_memberAttribute`, `Reader.elementProblems_nested`: of an element.
* `Reader.read_nested`: of an extraction.
-/

namespace Metatype

open Reporting

/-- A reader with the option for interfaces as return types on or off. -/
def Reader.withNested (r : Reader) (nested : Bool) : Reader :=
  { r with options := { r.options with nested } }

@[simp]
theorem Reader.source_withNested (r : Reader) (nested : Bool) :
    (r.withNested nested).source = r.source := rfl

/-! ## What the option changes -/

/-- A type may become a string where there was none, and interfaces are no longer reported. -/
structure Reader.Verdict.Relaxes (off on : Reader.Verdict) : Prop where
  valueType : on.valueType = off.valueType ∨ off.valueType = none ∧ on.valueType = some .string
  problems : on.problems = off.problems.filter (·.code ≠ .nestedTypeNotEnabled)

/-- An attribute stays, or becomes a string if it has no type. -/
def Attribute.Relaxes (off on : Attribute) : Prop :=
  on = off ∨ off.valueType = none ∧ on = { off with valueType := some .string }

/-- The attributes of an object class stay or become strings, and all else stays. -/
structure ObjectClass.Relaxes (off on : ObjectClass) : Prop where
  attributes : List.Forall₂ Attribute.Relaxes off.attributes on.attributes
  rest : on = { off with attributes := on.attributes }

/-- A verdict that reports no interface stays. -/
theorem Reader.Verdict.relaxes_self {v : Reader.Verdict}
    (h : v.problems.filter (·.code = .nestedTypeNotEnabled) = []) : Relaxes v v :=
  ⟨Or.inl rfl, (filter_code_ne h).symm⟩

namespace Reader

variable (r : Reader)

/-! ## Types -/

theorem relaxes_verdict (name : String) :
    Verdict.Relaxes ((r.withNested false).verdict name) ((r.withNested true).verdict name) := by
  unfold verdict
  cases TypeMapping.valueType? name with
  | some v => exact Verdict.relaxes_self rfl
  | none =>
    rw [source_withNested, source_withNested]
    cases r.source.lookup name with
    | unknown => exact Verdict.relaxes_self rfl
    | failed f => exact Verdict.relaxes_self rfl
    | found t =>
      have hwrites : ∀ nested, (r.withNested nested).writesAsString t =
          (t.isEnum || !t.isAbstract || (t.isInterface && nested)) := fun _ => rfl
      dsimp only
      rw [hwrites, hwrites]
      -- Only an abstract interface is looked at with the option in mind.
      cases t.isEnum || !t.isAbstract with
      | true => exact Verdict.relaxes_self rfl
      | false =>
        cases t.isInterface with
        | true => exact ⟨Or.inr ⟨rfl, rfl⟩, rfl⟩
        | false => exact Verdict.relaxes_self rfl

/-- An interface has no type without the option, and is a string with it. -/
example :
    let lock : DeclaredType := { name := "com.acme.Lock", kind := .interfaceType }
    let r : Reader := { source := Source.ofTable [("com.acme.Lock", .found lock)] }
    ((r.withNested false).verdict "com.acme.Lock").valueType = none ∧
      (r.withNested true).verdict "com.acme.Lock" = ⟨some .string, []⟩ := by decide

theorem relaxes_elementVerdict (name : String) :
    Verdict.Relaxes ((r.withNested false).elementVerdict name)
      ((r.withNested true).elementVerdict name) := by
  unfold elementVerdict
  split
  · exact Verdict.relaxes_self rfl
  · exact r.relaxes_verdict name

theorem relaxes_returnVerdict (owner member returnType : String) :
    Verdict.Relaxes ((r.withNested false).returnVerdict owner member returnType)
      ((r.withNested true).returnVerdict owner member returnType) := by
  unfold returnVerdict
  rw [source_withNested, source_withNested]
  dsimp only
  split
  · exact Verdict.relaxes_self rfl
  · exact r.relaxes_elementVerdict _

/-! ## Elements -/

theorem element_mapped_nested (owner : String) (m : Method) :
    ((r.withNested true).mapped owner m).element =
      ((r.withNested false).mapped owner m).element := by
  rw [mapped_eq, mapped_eq]
  rfl

theorem relaxes_memberAttribute (kind : Kind) (owner : String)
    (keyPrefix shorthand : Option String) (m : Method) :
    Attribute.Relaxes ((r.withNested false).memberAttribute kind owner keyPrefix shorthand m)
      ((r.withNested true).memberAttribute kind owner keyPrefix shorthand m) := by
  obtain ⟨hvalue, -⟩ := r.relaxes_returnVerdict owner m.name m.returnType
  have hon : (r.withNested true).memberAttribute kind owner keyPrefix shorthand m =
      { (r.withNested false).memberAttribute kind owner keyPrefix shorthand m with
        valueType := (m.marker?.bind (·.valueType)).or
          ((r.withNested true).returnVerdict owner m.name m.returnType).valueType } := by
    unfold memberAttribute
    rw [mapped_eq, mapped_eq]
    rfl
  have hoff : ((r.withNested false).memberAttribute kind owner keyPrefix shorthand m).valueType =
      (m.marker?.bind (·.valueType)).or
        ((r.withNested false).returnVerdict owner m.name m.returnType).valueType := by
    unfold memberAttribute
    rw [mapped_eq]
  rcases hvalue with heq | ⟨hnone, hstring⟩
  · refine Or.inl ?_
    rw [hon, heq, ← hoff]
  · rw [hstring] at hon
    rw [hnone, Option.or_none] at hoff
    -- A type that the marker sets goes before the string.
    cases hmarker : m.marker?.bind (·.valueType) with
    | none =>
      rw [hmarker] at hon hoff
      exact Or.inr ⟨hoff, hon⟩
    | some v =>
      rw [hmarker, Option.some_or, ← hmarker, ← hoff] at hon
      exact Or.inl hon

theorem elementProblems_nested (kind : Kind) (owner : String) (m : Method) :
    (r.withNested true).elementProblems kind owner m =
      ((r.withNested false).elementProblems kind owner m).filter
        (·.code ≠ .nestedTypeNotEnabled) := by
  have hmapping : added ((r.withNested true).mapType owner m.name m.returnType) =
      (added ((r.withNested false).mapType owner m.name m.returnType)).filter
        (·.code ≠ .nestedTypeNotEnabled) := by
    rw [((r.withNested true).yields_returnVerdict owner m.name m.returnType).added_eq,
      ((r.withNested false).yields_returnVerdict owner m.name m.returnType).added_eq]
    exact (r.relaxes_returnVerdict owner m.name m.returnType).problems
  have hchoices : ∀ element, (r.choiceProblems owner m.name element).filter
      (·.code ≠ .nestedTypeNotEnabled) = r.choiceProblems owner m.name element := by
    intro element
    refine filter_code_ne (filter_code_eq_nil fun d hd => ?_)
    rw [r.code_of_mem_choiceProblems _ _ _ d hd]
    decide
  have hdefaults : (r.defaultProblems m.name m.elementType).filter
      (·.code ≠ .nestedTypeNotEnabled) = r.defaultProblems m.name m.elementType := by
    refine filter_code_ne (filter_code_eq_nil fun d hd => ?_)
    rcases r.code_of_mem_defaultProblems _ _ d hd with hcode | hcode
    · rw [hcode]
      decide
    · rw [hcode]
      decide
  have hchoice : ∀ nested, (r.withNested nested).choiceProblems = r.choiceProblems := fun _ => rfl
  have hdefault : ∀ nested, (r.withNested nested).defaultProblems = r.defaultProblems :=
    fun _ => rfl
  rw [elementProblems, elementProblems, hmapping, r.element_mapped_nested, hchoice, hchoice,
    hdefault, hdefault, List.filter_append, List.filter_append, hchoices]
  split
  · rw [hdefaults]
  · rfl

/-! ## Types -/

theorem relaxes_typeAttributes (keyPrefix : Option String) (t : DeclaredType) :
    List.Forall₂ Attribute.Relaxes ((r.withNested false).typeAttributes keyPrefix t)
      ((r.withNested true).typeAttributes keyPrefix t) := by
  unfold typeAttributes
  rw [List.forall₂_map_left_iff, List.forall₂_map_right_iff, List.forall₂_same]
  intro m _
  exact r.relaxes_memberAttribute t.kind t.name keyPrefix t.shorthand? m

/-- Under the same prefixes the attributes of visited types stay or become strings. -/
theorem relaxes_visitAttributes (visits : List Visit) :
    List.Forall₂ Attribute.Relaxes ((r.withNested false).visitAttributes visits)
      ((r.withNested true).visitAttributes visits) := by
  induction visits with
  | nil => exact .nil
  | cons v rest ih =>
    unfold visitAttributes at ih ⊢
    rw [List.flatMap_cons, List.flatMap_cons]
    exact List.rel_append (r.relaxes_typeAttributes v.keyPrefix v.type) ih

theorem memberProblems_nested (t : DeclaredType) (m : Method) :
    (r.withNested true).memberProblems t m =
      ((r.withNested false).memberProblems t m).filter (·.code ≠ .nestedTypeNotEnabled) := by
  unfold memberProblems
  split
  · rfl
  · split
    · exact r.elementProblems_nested t.kind t.name m
    · rfl

theorem visitProblems_nested (t : DeclaredType) (isRoot : Bool) :
    (r.withNested true).visitProblems t isRoot =
      ((r.withNested false).visitProblems t isRoot).filter (·.code ≠ .nestedTypeNotEnabled) := by
  have hmarkers := filter_code_ne (filter_markerProblems t true .nestedTypeNotEnabled (by decide))
  have hkeys : (t.prefixProblems (Field.lastPrefix? isRoot t.fields)).filter
      (·.code ≠ .nestedTypeNotEnabled) = t.prefixProblems (Field.lastPrefix? isRoot t.fields) := by
    refine filter_code_ne (filter_code_eq_nil fun p hp => ?_)
    rw [code_of_mem_prefixProblems t _ p hp]
    decide
  rw [visitProblems, visitProblems, List.filter_append, hmarkers, List.filter_append, hkeys,
    List.filter_flatMap, funext (r.memberProblems_nested t)]

theorem stepProblems_nested (rootName : String) (s : Ancestry.Step) :
    (r.withNested true).stepProblems rootName s =
      ((r.withNested false).stepProblems rootName s).filter (·.code ≠ .nestedTypeNotEnabled) := by
  cases s with
  | visit t => exact r.visitProblems_nested t _
  | unknown name owner => rfl
  | failed name owner f => rfl

/-! ## An extraction -/

theorem relaxes_outcome (root : DeclaredType) :
    Option.Rel ObjectClass.Relaxes ((r.withNested false).outcome root)
      ((r.withNested true).outcome root) := by
  unfold outcome
  cases root.objectClassMarker? with
  | none => exact .none
  | some m =>
    have hvisits : (r.withNested true).visits root = (r.withNested false).visits root := rfl
    rw [hvisits]
    exact .some ⟨r.relaxes_visitAttributes ((r.withNested false).visits root), rfl⟩

theorem problems_nested (root : DeclaredType) :
    (r.withNested true).problems root =
      ((r.withNested false).problems root).filter (·.code ≠ .nestedTypeNotEnabled) := by
  have hsteps : (r.withNested true).stepsAbove root = (r.withNested false).stepsAbove root := rfl
  unfold problems
  split
  · rw [List.filter_append, List.filter_flatMap, r.visitProblems_nested, hsteps,
      funext (r.stepProblems_nested root.name)]
  · exact (filter_code_ne (filter_markerProblems root _ .nestedTypeNotEnabled (by decide))).symm

/-- With the option and without it an extraction gives an object class from the same roots. The two
differ in attributes alone that have no type without the option and are strings with it. With the
option the same is reported in the same order, but no interfaces as return types. -/
theorem read_nested (root : DeclaredType) (before : Report) :
    let off := ((r.withNested false).read root).run before
    let on := ((r.withNested true).read root).run before
    Option.Rel ObjectClass.Relaxes off.1 on.1 ∧
      ∃ added, off.2.items = before.items ++ added ∧
        on.2.items = before.items ++ added.filter (·.code ≠ .nestedTypeNotEnabled) := by
  intro off on
  have hoff : off = _ := (r.withNested false).yields_read root before
  have hon : on = _ := (r.withNested true).yields_read root before
  rw [hoff, hon]
  refine ⟨r.relaxes_outcome root, (r.withNested false).problems root, rfl, ?_⟩
  rw [r.problems_nested root]

end Reader

end Metatype
