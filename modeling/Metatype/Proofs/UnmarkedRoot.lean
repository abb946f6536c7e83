import Mathlib.Data.List.Basic
import Metatype.Proofs.Identity

/-!
# Roots without an object class marker

A root that has no object class marker on it gives no object class, whatever else is declared in it.
It is replayed in full all the same. Of what it declares, only attribute markers in the wrong place
are reported while that is done: those on the type itself, on its fields and on its static methods.
All other problems wait for the end of a type that has an object class.

* `DeclaredType.strayMarkers`: the attribute markers that are on no member.
* `Reader.read_unmarked`: what is reported of a root without an object class marker.
* `Reader.exists_unmarked_reported`: such a root of which something is reported.
-/

namespace Metatype

open Reporting

namespace DeclaredType

variable (t : DeclaredType)

/-! ## Attribute markers in the wrong place -/

/-- The attribute markers on a type, on its fields and on its static methods. -/
def strayMarkers : List AttributeMarker :=
  (t.markers ++ t.looseMarkers).filterMap Marker.attribute?

theorem mem_strayMarkers_iff (a : AttributeMarker) :
    a ∈ t.strayMarkers ↔ Marker.attribute a ∈ t.markers ++ t.looseMarkers := by
  rw [strayMarkers, List.mem_filterMap]
  constructor
  · rintro ⟨m | m | m, hm, ha⟩
    · cases ha
    · cases ha
      exact hm
    · cases ha
  · exact fun ha => ⟨_, ha, rfl⟩

theorem strayMarkers_eq_nil_iff :
    t.strayMarkers = [] ↔
      (∀ a, Marker.attribute a ∉ t.markers) ∧
        (∀ f ∈ t.fields, ∀ a, Marker.attribute a ∉ f.markers) ∧
        ∀ m ∈ t.methods, m.isStatic = true → ∀ a, Marker.attribute a ∉ m.markers := by
  rw [List.eq_nil_iff_forall_not_mem]
  simp only [mem_strayMarkers_iff, looseMarkers, List.mem_append, List.mem_flatMap,
    List.mem_filter]
  constructor
  · intro h
    exact ⟨fun a ha => h a (.inl ha), fun f hf a ha => h a (.inr (.inl ⟨f, hf, ha⟩)),
      fun m hm hstatic a ha => h a (.inr (.inr ⟨m, ⟨hm, hstatic⟩, ha⟩))⟩
  · rintro ⟨htype, hfields, hmethods⟩ a (ha | ⟨f, hf, ha⟩ | ⟨m, ⟨hm, hstatic⟩, ha⟩)
    · exact htype a ha
    · exact hfields f hf a ha
    · exact hmethods m hm hstatic a ha

theorem flatMap_looseProblems (markers : List Marker) :
    markers.flatMap t.looseProblems =
      (markers.filterMap Marker.attribute?).map fun _ => t.misplacedMarker := by
  induction markers with
  | nil => rfl
  | cons m rest ih =>
    rw [List.flatMap_cons, filterMap_cons_toList, List.map_append, ih]
    cases m <;> rfl

theorem flatMap_headProblems {markers : List Marker}
    (h : ∀ m, Marker.objectClass m ∉ markers) (allowed : Bool) :
    markers.flatMap (t.headProblems allowed) = markers.flatMap t.looseProblems := by
  refine List.flatMap_congr fun m hm => t.headProblems_other allowed ?_
  cases hmarker : m.objectClass? with
  | none => rfl
  | some o =>
    obtain rfl := Marker.eq_of_objectClass? hmarker
    exact absurd hm (h o)

end DeclaredType

namespace Reader

/-! ## An extraction -/

theorem problems_of_unmarked (r : Reader) {root : DeclaredType}
    (h : ∀ m, Marker.objectClass m ∉ root.markers) :
    r.problems root = root.strayMarkers.map fun _ => root.misplacedMarker := by
  have hnone : ¬root.objectClassMarker?.isSome = true := by
    rw [root.isSome_objectClassMarker?_iff]
    rintro ⟨-, m, hm⟩
    exact h m hm
  rw [problems, if_neg hnone, root.flatMap_headProblems h, ← List.flatMap_append,
    root.flatMap_looseProblems]
  rfl

theorem outcome_of_unmarked (r : Reader) {root : DeclaredType}
    (h : ∀ m, Marker.objectClass m ∉ root.markers) : r.outcome root = none := by
  rw [← Option.not_isSome_iff_eq_none, isSome_outcome, root.isSome_objectClassMarker?_iff]
  rintro ⟨-, m, hm⟩
  exact h m hm

/-- A root without an object class marker on it gives no object class, whatever its kind, its other
declarations and the source. One warning is reported for each attribute marker that is on the root
itself, on a field or on a static method, and nothing else. So nothing is reported exactly if there
are attribute markers on other methods at most. -/
theorem read_unmarked (r : Reader) {root : DeclaredType}
    (h : ∀ m, Marker.objectClass m ∉ root.markers) (before : Report) :
    (r.read root).run before =
        (none, ⟨before.items ++ root.strayMarkers.map fun _ => root.misplacedMarker⟩) ∧
      ((r.read root).run before = (none, before) ↔
        (∀ a, Marker.attribute a ∉ root.markers) ∧
          (∀ f ∈ root.fields, ∀ a, Marker.attribute a ∉ f.markers) ∧
          ∀ m ∈ root.methods, m.isStatic = true → ∀ a, Marker.attribute a ∉ m.markers) := by
  have hrun : (r.read root).run before =
      (none, ⟨before.items ++ root.strayMarkers.map fun _ => root.misplacedMarker⟩) := by
    rw [r.yields_read root before, r.outcome_of_unmarked h, r.problems_of_unmarked h]
  refine ⟨hrun, ?_⟩
  rw [hrun, ← root.strayMarkers_eq_nil_iff, Prod.mk.injEq, Report.mk.injEq]
  simp

/-- A class with attribute markers in every place. One method has an object class marker. -/
def workshop : DeclaredType :=
  { name := "com.acme.Workshop", interfaces := ["com.acme.Missing"]
    markers := [.attribute {}, .foreign { typeName := "com.acme.Tuning", values := .empty }]
    fields := [{ name := "PREFIX_", isStatic := true, markers := [.attribute {}, .attribute {}] }]
    methods := [
      { name := "<init>", isConstructor := true, markers := [.attribute {}] },
      { name := "open", parameters := ["int"], markers := [.attribute {}, .objectClass {}] },
      { name := "close", isStatic := true, markers := [.objectClass {}, .attribute {}] }] }

/-- The markers on the constructor and on the member with a parameter are in their place. -/
theorem read_unmarked_workshop :
    (∀ m, Marker.objectClass m ∉ workshop.markers) ∧
      (({ source := .empty } : Reader).read workshop).run {} =
        (none, ⟨List.replicate 4 workshop.misplacedMarker⟩) := by
  have h : ∀ m, Marker.objectClass m ∉ workshop.markers := by simp [workshop]
  refine ⟨h, ?_⟩
  rw [(({ source := .empty } : Reader).read_unmarked h {}).1]
  rfl

/-- An interface that has an attribute marker on a static method only. -/
def toolkit : DeclaredType :=
  { name := "com.acme.Toolkit", kind := .interfaceType
    methods := [
      { name := "size", returnType := "int" },
      { name := "create", returnType := "com.acme.Toolkit", isStatic := true
        markers := [.attribute {}] }] }

/-- Though no object class is declared, a warning is reported. -/
theorem exists_unmarked_reported :
    ∃ root : DeclaredType, (∀ m, Marker.objectClass m ∉ root.markers) ∧
      (({ source := .empty } : Reader).read root).run {} =
        (none, ⟨[⟨.misplacedAttributeMarker, .warning,
          "AttributeDefinition in com.acme.Toolkit is not attached to an element method", []⟩]⟩) :=
  ⟨toolkit, by simp [toolkit], rfl⟩

end Reader

end Metatype
