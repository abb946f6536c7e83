import Metatype.Proofs.KeyOrder

/-!
# Records that are written and read

What is written for the field of a record is read back, also if it was left out because a reader
puts the same in its place.

* `Json.record?_object`: the fields of an object with distinct keys.
* `Json.list?_map`, `Metatype.ofJson?_map_toJson`: lists and maps.
* `Json.nullable_orNull`: fields that may be null.
* `Json.optional_map`, `Json.defaulted_givenList`: fields that are left out if they are missing or
  empty.
* `Json.Omits.defaulted`: fields that are left out if they have their defaults.
* `Json.Value.Within`: tidy values of bounded depth.
-/

namespace Metatype.Json

open Numeral

variable {α : Type}

/-! ## Integers -/

theorem signed?_ofInt {bits : Nat} {i : Int} (h : -(twoTo (bits - 1) : Int) ≤ i)
    (h' : i < twoTo (bits - 1)) : (Value.ofInt i).signed? bits = some i := by
  have hfits : fitsSigned bits i = true := by simp [fitsSigned, h, h']
  rw [Value.ofInt, Value.signed?, if_pos hfits]

theorem int32?_ofInt (n : Int32) : (Value.ofInt n.toInt).int32? = some n := by
  rw [Value.int32?, signed?_ofInt n.le_toInt n.toInt_lt, Option.map_some, Int32.ofInt_toInt]

theorem tidy_ofInt {bits : Nat} (hbits : bits < 64) {i : Int} (h : -(twoTo bits : Int) ≤ i)
    (h' : i < twoTo bits) : (Value.ofInt i).Tidy := by
  have hle : twoTo bits ≤ twoTo 63 := Nat.pow_le_pow_right (by decide) (Nat.le_of_lt_succ hbits)
  have hlt : twoTo 63 ≤ twoTo 64 := by decide
  refine Value.tidy_integer.2 ⟨?_, ?_⟩ <;> omega

theorem tidy_ofInt32 (n : Int32) : (Value.ofInt n.toInt).Tidy :=
  tidy_ofInt (by decide) n.le_toInt n.toInt_lt

/-! ## Lists -/

theorem mapM_eq_some_of_forall₂ {β : Type} {read : β → Option α} {as : List α} {bs : List β}
    (h : List.Forall₂ (fun a b => read b = some a) as bs) : bs.mapM read = some as := by
  induction h with
  | nil => rfl
  | cons hab _ ih =>
    rw [List.mapM_cons, hab, ih]
    rfl

theorem mapM_map_eq_some {β : Type} {write : α → β} {read : β → Option α} {as : List α}
    (h : ∀ a ∈ as, read (write a) = some a) : (as.map write).mapM read = some as :=
  mapM_eq_some_of_forall₂ (List.forall₂_map_right_iff.2 (List.forall₂_same.2 h))

theorem list?_map {write : α → Value} {read : Value → Option α} {as : List α}
    (h : ∀ a ∈ as, read (write a) = some a) :
    Value.list? read (.array (as.map write)) = some as := mapM_map_eq_some h

theorem list?_ofStrings (ss : List String) :
    Value.list? Value.string? (.ofStrings ss) = some ss := list?_map fun _ _ => rfl

theorem tidy_array_map {write : α → Value} {as : List α} (h : ∀ a ∈ as, (write a).Tidy) :
    (Value.array (as.map write)).Tidy := by
  simpa using h

theorem tidy_ofStrings (ss : List String) : (Value.ofStrings ss).Tidy :=
  tidy_array_map fun _ _ => trivial

/-! ## Fields of records -/

theorem length_filter_le_one {ms : List (String × Value)} (h : (ms.map (·.1)).Nodup)
    (key : String) : (ms.filter (·.1 = key)).length ≤ 1 := by
  have hkeys : ((ms.filter (·.1 = key)).map (·.1)).Nodup :=
    h.sublist (List.filter_sublist.map _)
  have hsame : ∀ k ∈ (ms.filter (·.1 = key)).map (·.1), k = key := by
    intro k hk
    obtain ⟨m, hm, rfl⟩ := List.mem_map.1 hk
    simpa using (List.mem_filter.1 hm).2
  rw [List.eq_replicate_of_mem hsame, List.nodup_replicate, List.length_map] at hkeys
  exact hkeys

/-- The fields of an object with distinct keys are given by its members. -/
theorem record?_object {ms : List (String × Value)} (h : (ms.map (·.1)).Nodup)
    (fields : List String) :
    (Value.object ms).record? fields = some fun field => ms.lookup field := by
  have hall : (fields.all fun field => (ms.filter (·.1 = field)).length ≤ 1) = true := by
    simpa using fun field _ => length_filter_le_one h field
  rw [Value.record?, if_pos hall]

/-- A value that is not null is read as one that is given. -/
theorem nullable_of_ne_null {read : Value → Option α} {v : Value} (h : v ≠ .null) :
    nullable read v = (read v).map some := by
  unfold nullable
  split
  · exact absurd rfl h
  · rfl

theorem nullable_orNull {write : α → Value} {read : Value → Option α} {o : Option α}
    (h : ∀ a ∈ o, read (write a) = some a ∧ write a ≠ .null) :
    nullable read (orNull write o) = some o := by
  cases o with
  | none => rfl
  | some a =>
    obtain ⟨hread, hne⟩ := h a rfl
    rw [orNull, nullable_of_ne_null hne, hread]
    rfl

theorem tidy_orNull {write : α → Value} {o : Option α} (h : ∀ a ∈ o, (write a).Tidy) :
    (orNull write o).Tidy := by
  cases o with
  | none => trivial
  | some a => exact h a rfl

/-! ## Members that may be missing -/

/-- What is given for a list that is left out if it is empty. -/
def givenList (write : α → Value) (items : List α) : Option Value :=
  if items.isEmpty then none else some (.array (items.map write))

theorem lookup_single (key' key : String) (v : Value) :
    [(key, v)].lookup key' = if key' = key then some v else none := by
  by_cases h : key' = key <;> simp [List.lookup_cons, h, beq_eq_false_iff_ne.2]

theorem lookup_memberOf (key : String) (write : α → Value) (o : Option α) (key' : String) :
    (memberOf key write o).lookup key' = if key' = key then o.map write else none := by
  cases o <;> simp [memberOf, lookup_single]

theorem lookup_memberOfList (key : String) (write : α → Value) (items : List α) (key' : String) :
    (memberOfList key write items).lookup key' =
      if key' = key then givenList write items else none := by
  cases items <;> simp [memberOfList, givenList, lookup_single]

theorem optional_map {write : α → Value} {read : Value → Option α} {o : Option α}
    (h : ∀ a ∈ o, read (write a) = some a ∧ write a ≠ .null) :
    optional (o.map write) read = some o := by
  cases o with
  | none => rfl
  | some a =>
    obtain ⟨hread, hne⟩ := h a rfl
    rw [Option.map_some, optional, defaulted, nullable_of_ne_null hne, hread, Option.map_some]

theorem optional_orNull {write : α → Value} {read : Value → Option α} {o : Option α}
    (h : ∀ a ∈ o, read (write a) = some a ∧ write a ≠ .null) :
    optional (some (orNull write o)) read = some o :=
  nullable_orNull h

theorem optional_text (s : Option String) :
    optional (some (orNull .string s)) Value.string? = some s :=
  optional_orNull fun _ _ => ⟨rfl, nofun⟩

theorem optional_texts (ss : Option (List String)) :
    optional (some (orNull Value.ofStrings ss)) (Value.list? Value.string?) = some ss :=
  optional_orNull fun ss _ => ⟨list?_ofStrings ss, nofun⟩

theorem defaulted_givenList {write : α → Value} {read : Value → Option α} {items : List α}
    (h : ∀ a ∈ items, read (write a) = some a) :
    defaulted (givenList write items) [] (Value.list? read) = some items := by
  cases items with
  | nil => rfl
  | cons a items => exact list?_map h

theorem keys_memberOf (key : String) (write : α → Value) (o : Option α) :
    ((memberOf key write o).map (·.1)).Sublist [key] := by
  cases o <;> simp [memberOf]

theorem keys_memberOfList (key : String) (write : α → Value) (items : List α) :
    ((memberOfList key write items).map (·.1)).Sublist [key] := by
  cases items <;> simp [memberOfList]

theorem forall_mem_memberOf {P : Value → Prop} {write : α → Value} {o : Option α}
    (h : ∀ a, P (write a)) (key : String) : ∀ m ∈ memberOf key write o, P m.2 := by
  cases o with
  | none => nofun
  | some a => simpa [memberOf] using h a

theorem forall_mem_memberOfList {P : Value → Prop} {write : α → Value} {items : List α}
    (h : P (.array (items.map write))) (key : String) :
    ∀ m ∈ memberOfList key write items, P m.2 := by
  cases items with
  | nil => nofun
  | cons a items => simpa [memberOfList] using h

/-! ## Members that are left out -/

/-- Some members are left out, which a default has as well. -/
structure Omits (default full kept : List (String × Value)) : Prop where
  sublist : kept.Sublist full
  omitted : ∀ m ∈ full, m ∉ kept → m ∈ default

namespace Omits

theorem refl (default full : List (String × Value)) : Omits default full full where
  sublist := .refl full
  omitted _ hm hnot := absurd hm hnot

theorem tidy {default full kept : List (String × Value)} (h : Omits default full kept)
    (hfull : (Value.object full).Tidy) : (Value.object kept).Tidy := by
  obtain ⟨hkeys, hvalues⟩ := Value.tidy_object.1 hfull
  exact Value.tidy_object.2
    ⟨hkeys.sublist (h.sublist.map _), fun m hm => hvalues m (h.sublist.subset hm)⟩

/-- A field is read as what was written for it. If it is left out, that is the default. -/
theorem defaulted {default full kept : List (String × Value)} (h : Omits default full kept)
    (hfull : (full.map (·.1)).Nodup) (hdefault : (default.map (·.1)).Nodup) {key : String}
    {v d : Value} (hv : full.lookup key = some v) (hd : default.lookup key = some d)
    {read : Value → Option α} {a fallback : α} (ha : read v = some a)
    (hfallback : read d = some fallback) :
    Json.defaulted (kept.lookup key) fallback read = some a := by
  have hkept : (kept.map (·.1)).Nodup := hfull.sublist (h.sublist.map _)
  have hmem := (lookup_eq_some_iff hfull).1 hv
  by_cases hin : (key, v) ∈ kept
  · rw [(lookup_eq_some_iff hkept).2 hin]
    exact ha
  · have hnone : kept.lookup key = none := by
      cases hlookup : kept.lookup key with
      | none => rfl
      | some w =>
        have hw := (lookup_eq_some_iff hkept).1 hlookup
        have heq := (lookup_eq_some_iff hfull).2 (h.sublist.subset hw)
        rw [hv] at heq
        cases heq
        exact absurd hw hin
    have hsame := (lookup_eq_some_iff hdefault).2 (h.omitted _ hmem hin)
    rw [hd] at hsame
    cases hsame
    rw [hnone, ← ha, hfallback]
    rfl

end Omits

/-! ## Depth -/

/-- A tidy value that is not nested deeper than a bound. -/
def Value.Within (d : Nat) (v : Value) : Prop := v.Tidy ∧ v.depth ≤ d

theorem Value.Within.mono {d e : Nat} {v : Value} (h : v.Within d) (hde : d ≤ e) : v.Within e :=
  ⟨h.1, Nat.le_trans h.2 hde⟩

section Within

variable {d : Nat}

@[simp]
theorem within_string (s : String) : (Value.string s).Within d := ⟨trivial, Nat.zero_le d⟩

@[simp]
theorem within_bool (b : Bool) : (Value.bool b).Within d := ⟨trivial, Nat.zero_le d⟩

@[simp]
theorem within_ofInt32 (n : Int32) : (Value.ofInt n.toInt).Within d :=
  ⟨tidy_ofInt32 n, Nat.zero_le d⟩

theorem within_array_map {write : α → Value} {as : List α} (h : ∀ a ∈ as, (write a).Within d) :
    (Value.array (as.map write)).Within (d + 1) :=
  ⟨tidy_array_map fun a ha => (h a ha).1,
    Value.depth_array_le.2 (by simpa using fun a ha => (h a ha).2)⟩

@[simp]
theorem within_ofStrings (ss : List String) : (Value.ofStrings ss).Within (d + 1) :=
  within_array_map fun s _ => within_string s

theorem within_object {ms : List (String × Value)} (hkeys : (ms.map (·.1)).Nodup)
    (h : ∀ m ∈ ms, m.2.Within d) : (Value.object ms).Within (d + 1) :=
  ⟨Value.tidy_object.2 ⟨hkeys, fun m hm => (h m hm).1⟩,
    Value.depth_object_le.2 fun m hm => (h m hm).2⟩

theorem within_orNull {write : α → Value} (h : ∀ a, (write a).Within d) (o : Option α) :
    (orNull write o).Within d := by
  cases o with
  | none => exact ⟨trivial, Nat.zero_le d⟩
  | some a => exact h a

end Within

end Metatype.Json

/-! ## Maps -/

namespace Metatype

open Json

variable {α : Type}

theorem ofJson?_map_toJson {write : α → Value} {read : Value → Option α} {m : OrderedMap α}
    (h : ∀ e ∈ m.toList, read (write e.2) = some e.2) :
    OrderedMap.ofJson? read (m.toJson write) = some m := by
  have hread : (m.map write).toList.mapM (fun e => (read e.2).map (e.1, ·)) = some m.toList :=
    mapM_map_eq_some fun e he => by rw [h e he]; rfl
  rw [OrderedMap.toJson, OrderedMap.ofJson?, hread, Option.map_some, OrderedMap.ofList_toList]

theorem OrderedMap.nodup_keys (m : OrderedMap α) : (m.toList.map (·.1)).Nodup :=
  List.pairwise_map.2 (m.ascending.imp fun h => String.ne_of_lt h)

theorem tidy_map_toJson {write : α → Value} {m : OrderedMap α}
    (h : ∀ e ∈ m.toList, (write e.2).Tidy) : (m.toJson write).Tidy := by
  refine Value.tidy_object.2 ⟨OrderedMap.nodup_keys (m.map write), fun e he => ?_⟩
  obtain ⟨e', he', rfl⟩ := List.mem_map.1 he
  exact h e' he'

theorem within_map_toJson {write : α → Value} {m : OrderedMap α} {d : Nat}
    (h : ∀ e ∈ m.toList, (write e.2).Within d) : (m.toJson write).Within (d + 1) := by
  refine within_object (OrderedMap.nodup_keys (m.map write)) fun e he => ?_
  obtain ⟨e', he', rfl⟩ := List.mem_map.1 he
  exact h e' he'

end Metatype
