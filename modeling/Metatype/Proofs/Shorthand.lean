import Metatype.Proofs.Outcome

/-!
# The shorthand key

The element `value` of an annotation type has the shorthand key if no default is lacking. What is
lacking is counted: an element other than `value` without a default adds to the count, and a static
method with a default takes away from it. Without such static methods the shorthand key is there
exactly if all other members have defaults.

* `DeclaredType.lacking_methods`: the count, in terms of members and of static methods.
* `DeclaredType.plainKey_value`: the key of `value`.
* `Reader.shorthand_read`: the ids of the elements `value` in an extraction.
* `Reader.exists_shorthand_off`: two annotation types whose key depends on a static method.
-/

namespace Metatype

open Reporting

namespace DeclaredType

/-! ## The count of lacking defaults -/

/-- The number of members other than `value` that have no default. -/
def withoutDefault (t : DeclaredType) : Nat :=
  t.members.countP fun m => m.name ≠ "value" && m.default.isNone

/-- The number of static methods other than `value` that have a default. -/
def staticDefaults (t : DeclaredType) : Nat :=
  t.methods.countP fun m => m.isStatic && m.name ≠ "value" && m.default.isSome

variable {t : DeclaredType}

theorem lackingBy_eq (ht : t.isAnnotationType = true) (m : Method) :
    t.lackingBy m =
      (if (m.name ≠ "value" && m.default.isNone) && !m.isStatic then 1 else 0) -
        if m.isStatic && m.name ≠ "value" && m.default.isSome then 1 else 0 := by
  have hother : t.isOther m = decide (m.name ≠ "value") := by rw [isOther, ht, Bool.true_and]
  rw [lackingBy, hother]
  cases m.isStatic <;> cases decide (m.name ≠ "value") <;> cases m.default <;> rfl

/-- The count at the end of an annotation type. -/
theorem lacking_methods (ht : t.isAnnotationType = true) :
    t.lacking t.methods = (t.withoutDefault : Int) - t.staticDefaults := by
  unfold withoutDefault staticDefaults members
  rw [List.countP_filter]
  induction t.methods with
  | nil => rfl
  | cons m rest ih =>
    rw [lacking_cons, ih, lackingBy_eq ht, List.countP_cons, List.countP_cons]
    split <;> split <;> omega

theorem withoutDefault_eq_zero_iff :
    t.withoutDefault = 0 ↔ ∀ m ∈ t.members, m.name ≠ "value" → m.default.isSome = true := by
  have hlacking : ∀ m : Method, ¬(m.name ≠ "value" && m.default.isNone) = true ↔
      (m.name ≠ "value" → m.default.isSome = true) := by
    intro m
    rw [Bool.and_eq_true, decide_eq_true_iff, not_and, ← Option.not_isSome, Bool.not_eq_true',
      Bool.not_eq_false]
  unfold withoutDefault
  rw [List.countP_eq_zero]
  simp only [hlacking]

theorem staticDefaults_eq_zero
    (h : ∀ m ∈ t.methods, m.isStatic = true → m.name ≠ "value" → m.default = none) :
    t.staticDefaults = 0 := by
  unfold staticDefaults
  rw [List.countP_eq_zero]
  intro m hm hcounts
  rw [Bool.and_eq_true, Bool.and_eq_true, decide_eq_true_iff] at hcounts
  obtain ⟨⟨hstatic, hname⟩, hdefault⟩ := hcounts
  rw [h m hm hstatic hname] at hdefault
  cases hdefault

/-! ## The key of the element `value` -/

theorem hasValue_of_mem {m : Method} (ht : t.isAnnotationType = true) (hm : m ∈ t.elements)
    (hname : m.name = "value") : t.hasValue = true := by
  rw [hasValue, ht, Bool.true_and, List.any_eq_true]
  exact ⟨m, (List.mem_filter.1 hm).1, decide_eq_true hname⟩

/-- The element `value` has the shorthand key if as many static methods have defaults as members
lack them, each other than `value`. -/
theorem plainKey_value {m : Method} (ht : t.isAnnotationType = true) (hm : m ∈ t.elements)
    (hname : m.name = "value") :
    t.plainKey m =
      if t.withoutDefault = t.staticDefaults then shorthandKey t.simpleName else "value" := by
  have hcount : (t.lacking t.methods = 0) ↔ t.withoutDefault = t.staticDefaults := by
    rw [lacking_methods ht]
    omega
  have hvalue : (PropertyKey.ofIdentifier "value").key = "value" := by decide
  rw [plainKey, shorthand?, hasValue_of_mem ht hm hname, Bool.true_and, hname]
  simp only [hcount]
  split
  · rename_i h
    rw [if_pos (of_decide_eq_true h)]
    rfl
  · rename_i h
    rw [if_neg (of_decide_eq_false (Bool.eq_false_iff.2 h))]
    exact hvalue

/-- Where no static method takes part in the count, the shorthand key is that of annotation types
whose other members have defaults. -/
theorem plainKey_value_of_static {m : Method} (ht : t.isAnnotationType = true)
    (hm : m ∈ t.elements) (hname : m.name = "value")
    (hstatic : ∀ s ∈ t.methods, s.isStatic = true → s.name ≠ "value" → s.default = none) :
    t.plainKey m =
      if ∀ e ∈ t.members, e.name ≠ "value" → e.default.isSome = true then
        shorthandKey t.simpleName
      else "value" := by
  rw [plainKey_value ht hm hname, staticDefaults_eq_zero hstatic]
  simp only [withoutDefault_eq_zero_iff]

end DeclaredType

/-! ## An extraction -/

namespace Reader

variable (r : Reader)

theorem types_visits (root : DeclaredType) : (r.visits root).map (·.type) = r.lineage root :=
  Visit.map_type_along root.name none (r.lineage root)

theorem ids_visitAttributes (visits : List Visit) :
    (r.visitAttributes visits).map (·.id) =
      visits.flatMap fun v =>
        (v.type.elements.map v.type.plainKey).map (v.keyPrefix.getD "" ++ ·) := by
  simp only [visitAttributes, List.map_flatMap, ids_typeAttributes]

/-- Whenever an extraction gives an object class, its ids are those of the elements of the visited
types, each under the prefix that holds then. The element `value` of a visited annotation type has
the shorthand key if as many static methods have defaults as members lack them, and its name
otherwise. If no static method has a default, this is the shorthand key if all other members have
one. -/
theorem shorthand_read (r : Reader) (root : DeclaredType) {before after : Report} {o : ObjectClass}
    (hread : (r.read root).run before = (some o, after)) :
    o.attributes.map (·.id) = ((r.visits root).flatMap fun v =>
        (v.type.elements.map v.type.plainKey).map (v.keyPrefix.getD "" ++ ·)) ∧
      (r.visits root).map (·.type) = r.lineage root ∧
      ∀ t ∈ r.lineage root, t.isAnnotationType = true → ∀ m ∈ t.elements, m.name = "value" →
        (t.plainKey m =
          if t.withoutDefault = t.staticDefaults then shorthandKey t.simpleName else "value") ∧
        ((∀ s ∈ t.methods, s.isStatic = true → s.name ≠ "value" → s.default = none) →
          t.plainKey m =
            if ∀ e ∈ t.members, e.name ≠ "value" → e.default.isSome = true then
              shorthandKey t.simpleName
            else "value") := by
  obtain ⟨ho, -⟩ := r.outcome_of_run_read hread
  obtain ⟨m, -, rfl⟩ := Option.map_eq_some_iff.1 ho
  exact ⟨r.ids_visitAttributes _, r.types_visits root, fun t _ ht m hm hname =>
    ⟨DeclaredType.plainKey_value ht hm hname,
      DeclaredType.plainKey_value_of_static ht hm hname⟩⟩

def valueElement : Method := { name := "value", returnType := "int" }

/-- An annotation type with a prefix, a static method without a default, and another element that has
one. It inherits from an annotation type whose other element has none. -/
def deadline : DeclaredType :=
  { name := "com.acme.HardDeadline", kind := .annotationType, interfaces := ["com.acme.Delay"]
    markers := [.objectClass {}]
    fields := [
      { name := "PREFIX_", typeName := "java.lang.String", isStatic := true, isFinal := true
        constant := some (.string "job.") }]
    methods := [
      { name := "parse", returnType := "int", isStatic := true },
      valueElement,
      { name := "unit", returnType := "java.lang.String", default := some (.string "s") }] }

def delay : DeclaredType :=
  { name := "com.acme.Delay", kind := .annotationType
    methods := [valueElement, { name := "scale", returnType := "int" }] }

def deadlineReader : Reader :=
  { source := Registry.source { types := [deadline, delay], nodup := by decide } }

/-- The first annotation type has a shorthand key, the one that it inherits from has none. -/
theorem shorthand_read_deadline :
    ∃ o after, (deadlineReader.read deadline).run {} = (some o, after) ∧
      o.attributes.map (·.id) = ["job.hard.deadline", "job.unit", "job.value", "job.scale"] ∧
      deadline.plainKey valueElement = "hard.deadline" ∧
      delay.plainKey valueElement = "value" := by
  have hlineage : deadlineReader.lineage deadline = [deadline, delay] := by
    have hdelay : deadlineReader.route.source.lookup "com.acme.Delay" = .found delay := rfl
    rw [lineage_eq, stepsAbove, deadline, Ancestry.follow_descend (by decide) _ hdelay rfl, delay,
      Ancestry.follow_nil, Ancestry.follow_nil]
    rfl
  have hvisits : deadlineReader.visits deadline = [⟨deadline, "job."⟩, ⟨delay, "job."⟩] := by
    rw [visits, hlineage]
    rfl
  obtain ⟨o, after, hread⟩ := deadlineReader.exists_run_read deadline rfl {}
  obtain ⟨hids, -, hvalue⟩ := deadlineReader.shorthand_read deadline hread
  rw [hlineage] at hvalue
  have hdeadline := (hvalue deadline (by simp) rfl valueElement List.mem_cons_self rfl).2 (by decide)
  have hdelay := (hvalue delay (by simp) rfl valueElement List.mem_cons_self rfl).2 (by decide)
  refine ⟨o, after, hread, ?_, hdeadline.trans (by decide), hdelay.trans (by decide)⟩
  rw [hids, hvisits]
  decide

/-- An annotation type with an element that lacks a default, and a static method with one. -/
def maxSize : DeclaredType :=
  { name := "com.acme.MaxSize", kind := .annotationType, markers := [.objectClass {}]
    methods := [
      valueElement,
      { name := "unit", returnType := "java.lang.String" },
      { name := "helper", returnType := "int", isStatic := true, default := some (.int 1) }] }

/-- An annotation type without other elements than `value`, and a static method with a default. -/
def minSize : DeclaredType :=
  { name := "com.acme.MinSize", kind := .annotationType, markers := [.objectClass {}]
    methods := [
      valueElement,
      { name := "helper", returnType := "int", isStatic := true, default := some (.int 1) }] }

/-- The default of a static method is counted as if it were that of an element. So `value` has the
shorthand key though another element lacks a default, and has not though none does. -/
theorem exists_shorthand_off :
    let r : Reader := { source := Registry.empty.source }
    (∃ o, ((r.read maxSize).run {}).1 = some o ∧ o.attributes.map (·.id) = ["max.size", "unit"] ∧
        ¬∀ e ∈ maxSize.members, e.name ≠ "value" → e.default.isSome = true) ∧
      ∃ o, ((r.read minSize).run {}).1 = some o ∧ o.attributes.map (·.id) = ["value"] ∧
        ∀ e ∈ minSize.members, e.name ≠ "value" → e.default.isSome = true := by
  intro r
  -- Without ancestors the ids are those of the root.
  have hids : ∀ root : DeclaredType, root.objectClassMarker?.isSome = true → root.interfaces = [] →
      ∃ o, ((r.read root).run {}).1 = some o ∧
        o.attributes.map (·.id) =
          (root.elements.map root.plainKey).map ((root.givenPrefix? true).getD "" ++ ·) := by
    intro root hroot hinterfaces
    have hvisits : r.visits root = [⟨root, root.givenPrefix? true⟩] := by
      rw [r.visits_of_faithful (Registry.isFaithful_source _), lineage_eq, stepsAbove, hinterfaces,
        Ancestry.follow_nil]
      rfl
    obtain ⟨o, after, hread⟩ := r.exists_run_read root hroot {}
    obtain ⟨m, -, rfl⟩ := Option.map_eq_some_iff.1 (r.outcome_of_run_read hread).1
    refine ⟨_, congrArg Prod.fst hread, ?_⟩
    rw [hvisits, ids_visitAttributes, List.flatMap_singleton]
  obtain ⟨o, ho, hmax⟩ := hids maxSize rfl rfl
  obtain ⟨o', ho', hmin⟩ := hids minSize rfl rfl
  exact ⟨⟨o, ho, hmax.trans (by decide), by decide⟩, o', ho', hmin.trans (by decide), by decide⟩

end Reader

end Metatype
