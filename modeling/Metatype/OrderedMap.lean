/-!
# Maps with text keys

Finite maps from text, kept as the list of their entries in ascending order of the keys, so that
equal maps are equal values.

* `OrderedMap.insert`: a later value replaces an earlier one under the same key.
* `OrderedMap.ofList_toList`: building a map from its own entries gives it back.
-/

namespace Metatype

/-- A finite map from text; the keys ascend strictly. -/
structure OrderedMap (α : Type) where
  toList : List (String × α)
  ascending : toList.Pairwise fun a b => a.1 < b.1

namespace OrderedMap

variable {α β : Type}

instance [Repr α] : Repr (OrderedMap α) := ⟨fun m p => reprPrec m.toList p⟩

instance [DecidableEq α] : DecidableEq (OrderedMap α) := fun a b =>
  decidable_of_iff (a.toList = b.toList) ⟨fun h => by cases a; cases b; simp_all, fun h => h ▸ rfl⟩

theorem ext {a b : OrderedMap α} (h : a.toList = b.toList) : a = b := by
  cases a; cases b; simp_all

/-- The map without entries. -/
def empty : OrderedMap α := ⟨[], .nil⟩

instance : EmptyCollection (OrderedMap α) := ⟨empty⟩

instance : Inhabited (OrderedMap α) := ⟨empty⟩

/-! ## Insertion -/

/-- Puts an entry at its place; an entry with the same key gives way. -/
def insertEntry (key : String) (value : α) : List (String × α) → List (String × α)
  | [] => [(key, value)]
  | (k, v) :: rest =>
    if key < k then (key, value) :: (k, v) :: rest
    else if k < key then (k, v) :: insertEntry key value rest
    else (key, value) :: rest

theorem mem_insertEntry {key : String} {value : α} {e : String × α} {l : List (String × α)}
    (h : e ∈ insertEntry key value l) : e.1 = key ∨ e ∈ l := by
  induction l with
  | nil => simp_all [insertEntry]
  | cons hd rest ih =>
    simp only [insertEntry] at h
    split at h
    · rcases List.mem_cons.1 h with rfl | h
      · exact Or.inl rfl
      · exact Or.inr h
    · split at h
      · rcases List.mem_cons.1 h with rfl | h
        · exact Or.inr List.mem_cons_self
        · exact (ih h).imp_right (List.mem_cons_of_mem _)
      · rcases List.mem_cons.1 h with rfl | h
        · exact Or.inl rfl
        · exact Or.inr (List.mem_cons_of_mem _ h)

theorem pairwise_insertEntry (key : String) (value : α) {l : List (String × α)}
    (h : l.Pairwise fun a b => a.1 < b.1) :
    (insertEntry key value l).Pairwise fun a b => a.1 < b.1 := by
  induction l with
  | nil => simp [insertEntry]
  | cons hd rest ih =>
    obtain ⟨hhd, hrest⟩ := List.pairwise_cons.1 h
    simp only [insertEntry]
    split
    · rename_i hlt
      refine List.pairwise_cons.2 ⟨fun e he => ?_, h⟩
      rcases List.mem_cons.1 he with rfl | he
      · exact hlt
      · exact String.lt_trans hlt (hhd e he)
    · split
      · rename_i hlt
        refine List.pairwise_cons.2 ⟨fun e he => ?_, ih hrest⟩
        rcases mem_insertEntry he with hk | he
        · rw [hk]; exact hlt
        · exact hhd e he
      · rename_i hnot hnot'
        have heq : hd.1 = key := String.le_antisymm hnot hnot'
        refine List.pairwise_cons.2 ⟨fun e he => ?_, hrest⟩
        rw [← heq]
        exact hhd e he

/-- The map with one more entry, or with a new value under a key that it has. -/
def insert (m : OrderedMap α) (key : String) (value : α) : OrderedMap α :=
  ⟨insertEntry key value m.toList, pairwise_insertEntry key value m.ascending⟩

/-- The map of some entries; of several with one key the last one counts. -/
def ofList (entries : List (String × α)) : OrderedMap α :=
  entries.foldl (fun m e => m.insert e.1 e.2) empty

theorem insertEntry_append {key : String} {value : α} {l : List (String × α)}
    (h : ∀ e ∈ l, e.1 < key) : insertEntry key value l = l ++ [(key, value)] := by
  induction l with
  | nil => rfl
  | cons hd rest ih =>
    have hlt := h hd (by simp)
    simp only [insertEntry, if_neg (String.lt_asymm hlt), if_pos hlt, List.cons_append]
    rw [ih fun e he => h e (List.mem_cons_of_mem _ he)]

theorem toList_foldl_insert (m : OrderedMap α) (entries : List (String × α))
    (h : (m.toList ++ entries).Pairwise fun a b => a.1 < b.1) :
    (entries.foldl (fun m e => m.insert e.1 e.2) m).toList = m.toList ++ entries := by
  induction entries generalizing m with
  | nil => simp
  | cons e rest ih =>
    have hm : (m.insert e.1 e.2).toList = m.toList ++ [e] :=
      insertEntry_append fun e' he' => (List.pairwise_append.1 h).2.2 e' he' e (by simp)
    rw [List.foldl_cons, ih _ (by rw [hm]; simpa using h), hm]
    simp

@[simp]
theorem ofList_toList (m : OrderedMap α) : ofList m.toList = m :=
  ext (by rw [ofList, toList_foldl_insert _ _ (by simpa [empty] using m.ascending)]; rfl)

/-! ## Values -/

/-- The map with every value changed. -/
def map (f : α → β) (m : OrderedMap α) : OrderedMap β :=
  ⟨m.toList.map fun e => (e.1, f e.2), List.pairwise_map.2 m.ascending⟩

end OrderedMap

end Metatype
