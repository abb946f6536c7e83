import Metatype.Json.Record

/-!
# Induction on JSON values

Arrays and objects hold values in lists, so that an induction on a value needs what holds of all
items and members at once. Two measures of a value are given in that form: how deep it is nested,
and whether it is tidy.

* `Json.Value.induction`: induction on a value.
* `Json.Value.depth_array_le`, `Json.Value.depth_object_le`: the depth of what has items and
  members.
* `Json.Value.Tidy`: values without repeated keys, whose numbers are integers.
-/

namespace Metatype.Json

open Numeral

/-! ## Induction -/

/-- A property of values follows from what holds of their items and members. -/
theorem Value.induction {P : Value → Prop} (null : P .null) (bool : ∀ b, P (.bool b))
    (number : ∀ n, P (.number n)) (string : ∀ s, P (.string s))
    (array : ∀ items, (∀ v ∈ items, P v) → P (.array items))
    (object : ∀ members, (∀ m ∈ members, P m.2) → P (.object members)) (v : Value) : P v :=
  @Value.rec P (fun items => ∀ v ∈ items, P v) (fun members => ∀ m ∈ members, P m.2)
    (fun m => P m.2) null bool number string array object nofun
    (fun _ _ hv hrest => List.forall_mem_cons.2 ⟨hv, hrest⟩) nofun
    (fun _ _ hm hrest => List.forall_mem_cons.2 ⟨hm, hrest⟩) (fun _ _ hv => hv) v

/-! ## Depth -/

namespace Value

theorem depthItems_le {items : List Value} {d : Nat} :
    depthItems items ≤ d ↔ ∀ v ∈ items, v.depth ≤ d := by
  induction items with
  | nil => simp [depthItems]
  | cons v rest ih => rw [depthItems, Nat.max_le, ih, List.forall_mem_cons]

theorem depthMembers_le {members : List (String × Value)} {d : Nat} :
    depthMembers members ≤ d ↔ ∀ m ∈ members, m.2.depth ≤ d := by
  induction members with
  | nil => simp [depthMembers]
  | cons m rest ih => rw [depthMembers, Nat.max_le, ih, List.forall_mem_cons]

theorem depth_array_le {items : List Value} {d : Nat} :
    (array items).depth ≤ d + 1 ↔ ∀ v ∈ items, v.depth ≤ d := by
  rw [depth, Nat.add_le_add_iff_right, depthItems_le]

theorem depth_object_le {members : List (String × Value)} {d : Nat} :
    (object members).depth ≤ d + 1 ↔ ∀ m ∈ members, m.2.depth ≤ d := by
  rw [depth, Nat.add_le_add_iff_right, depthMembers_le]

end Value

/-! ## Tidy values -/

/-- An integer of 64 bits, signed or not. -/
def IsInt64 (i : Int) : Prop := -(twoTo 63 : Int) ≤ i ∧ i < twoTo 64

mutual

/-- No object has a key twice, and every number is an integer of 64 bits. -/
def Value.Tidy : Value → Prop
  | .number (.integer i) => IsInt64 i
  | .number (.decimal ..) => False
  | .array items => TidyItems items
  | .object members => (members.map (·.1)).Nodup ∧ TidyMembers members
  | _ => True

/-- All items are tidy. -/
def TidyItems : List Value → Prop
  | [] => True
  | v :: rest => v.Tidy ∧ TidyItems rest

/-- The values of all members are tidy. -/
def TidyMembers : List (String × Value) → Prop
  | [] => True
  | (_, v) :: rest => v.Tidy ∧ TidyMembers rest

end

namespace Value

@[simp]
theorem tidy_null : null.Tidy := trivial

@[simp]
theorem tidy_bool (b : Bool) : (bool b).Tidy := trivial

@[simp]
theorem tidy_string (s : String) : (string s).Tidy := trivial

@[simp]
theorem tidy_integer {i : Int} : (number (.integer i)).Tidy ↔ IsInt64 i := Iff.rfl

@[simp]
theorem tidy_array {items : List Value} : (array items).Tidy ↔ ∀ v ∈ items, v.Tidy := by
  have h : TidyItems items ↔ ∀ v ∈ items, v.Tidy := by
    induction items with
    | nil => simp [TidyItems]
    | cons v rest ih => simp [TidyItems, ih]
  exact h

@[simp]
theorem tidy_object {members : List (String × Value)} :
    (object members).Tidy ↔ (members.map (·.1)).Nodup ∧ ∀ m ∈ members, m.2.Tidy := by
  have h : TidyMembers members ↔ ∀ m ∈ members, m.2.Tidy := by
    induction members with
    | nil => simp [TidyMembers]
    | cons m rest ih => simp [TidyMembers, ih]
  exact and_congr_right fun _ => h

end Value

end Metatype.Json
