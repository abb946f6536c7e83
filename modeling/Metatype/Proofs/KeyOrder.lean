import Mathlib.Data.List.Forall2
import Metatype.Encoding.Schema
import Metatype.Proofs.JsonValue

/-!
# The order of keys

The members of an object may be written in any order. A reader is stable if it reads the same from a
value after its objects, at any depth, have been reordered. Where a key occurs twice the order
counts, so this is asked of tidy values only.

* `Json.Value.Reordered`: the same value with its members in another order.
* `Json.MembersAlike.lookup`, `Json.MembersAlike.filter`: what is found in reordered members.
* `Json.stable_record`: a reader of records is stable if its fields are read by stable readers.
* `Json.stable_list`, `Metatype.stable_map`: so are readers of lists and maps.
-/

namespace Metatype.Json

variable {α β : Type}

/-! ## Entries with distinct keys -/

theorem lookup_eq_some_iff {l : List (String × α)} (h : (l.map (·.1)).Nodup) {key : String}
    {a : α} : l.lookup key = some a ↔ (key, a) ∈ l := by
  induction l with
  | nil => simp
  | cons e rest ih =>
    obtain ⟨k, b⟩ := e
    obtain ⟨hk, hrest⟩ := List.nodup_cons.1 h
    by_cases hkey : key = k
    · subst hkey
      have hnot : (key, a) ∉ rest := fun hmem => hk (List.mem_map.2 ⟨_, hmem, rfl⟩)
      simp [hnot, eq_comm]
    · have hbeq : (key == k) = false := by simpa using hkey
      rw [List.lookup_cons, hbeq, List.mem_cons]
      simp [ih hrest, hkey]

theorem lookup_perm {l l' : List (String × α)} (h : (l.map (·.1)).Nodup) (hperm : l.Perm l')
    (key : String) : l.lookup key = l'.lookup key := by
  have h' : (l'.map (·.1)).Nodup := (hperm.map (·.1)).nodup_iff.1 h
  ext a
  rw [lookup_eq_some_iff h, lookup_eq_some_iff h', hperm.mem_iff]

/-! ## Reordered values -/

/-- The same value, with the members of its objects in another order. -/
inductive Value.Reordered : Value → Value → Prop
  | same (v : Value) : Reordered v v
  | array {vs ws : List Value} (items : List.Forall₂ Reordered vs ws) :
      Reordered (.array vs) (.array ws)
  | object {ms ns ks : List (String × Value)} (keys : ms.map (·.1) = ns.map (·.1))
      (values : List.Forall₂ Reordered (ms.map (·.2)) (ns.map (·.2))) (order : ns.Perm ks) :
      Reordered (.object ms) (.object ks)

/-- The second value is the first one, a tidy value, reordered. -/
def Value.Alike (v w : Value) : Prop := v.Tidy ∧ v.Reordered w

/-- The second members are the first ones, with distinct keys and tidy values, reordered. -/
def MembersAlike (ms ks : List (String × Value)) : Prop :=
  (ms.map (·.1)).Nodup ∧
    ∃ ns, List.Forall₂ (fun m n => m.1 = n.1 ∧ m.2.Alike n.2) ms ns ∧ ns.Perm ks

namespace Value.Alike

theorem refl {v : Value} (h : v.Tidy) : v.Alike v := ⟨h, .same v⟩

theorem array {vs : List Value} {w : Value} (h : (Value.array vs).Alike w) :
    ∃ ws, w = .array ws ∧ List.Forall₂ Alike vs ws := by
  obtain ⟨htidy, hreordered⟩ := h
  have hvs := Value.tidy_array.1 htidy
  cases hreordered with
  | same => exact ⟨vs, rfl, List.forall₂_same.2 fun v hv => refl (hvs v hv)⟩
  | @array _ ws items =>
    exact ⟨ws, rfl, (List.forall₂_and_left vs ws).2 ⟨hvs, items⟩⟩

theorem of_forall₂ {vs ws : List Value} (h : List.Forall₂ Alike vs ws) :
    (Value.array vs).Alike (.array ws) := by
  have hboth := (List.forall₂_and_left vs ws).1 (h.imp fun v w hvw => hvw)
  exact ⟨Value.tidy_array.2 hboth.1, .array hboth.2⟩

theorem object {ms : List (String × Value)} {w : Value} (h : (Value.object ms).Alike w) :
    ∃ ks, w = .object ks ∧ MembersAlike ms ks := by
  obtain ⟨htidy, hreordered⟩ := h
  obtain ⟨hkeys, hms⟩ := Value.tidy_object.1 htidy
  cases hreordered with
  | same =>
    exact ⟨ms, rfl, hkeys, ms, List.forall₂_same.2 fun m hm => ⟨rfl, refl (hms m hm)⟩, .refl ms⟩
  | @object _ ns ks keys values order =>
    refine ⟨ks, rfl, hkeys, ns, ?_, order⟩
    clear order hkeys htidy
    induction ms generalizing ns with
    | nil =>
      cases ns with
      | nil => exact .nil
      | cons n ns => cases keys
    | cons m ms ih =>
      cases ns with
      | nil => cases keys
      | cons n ns =>
        obtain ⟨hkey, hrest⟩ := List.cons.inj keys
        cases values with
        | cons hvalue hvalues =>
          exact .cons ⟨hkey, hms m List.mem_cons_self, hvalue⟩
            (ih (fun m hm => hms m (List.mem_cons_of_mem _ hm)) hrest hvalues)

end Value.Alike

theorem keys_eq_of_forall₂ {R : Value → Value → Prop} {ms ns : List (String × Value)}
    (h : List.Forall₂ (fun m n => m.1 = n.1 ∧ R m.2 n.2) ms ns) :
    ms.map (·.1) = ns.map (·.1) := by
  induction h with
  | nil => rfl
  | cons h _ ih => rw [List.map_cons, List.map_cons, h.1, ih]

namespace MembersAlike

variable {ms ks : List (String × Value)} (h : MembersAlike ms ks)

include h

theorem perm_keys : (ms.map (·.1)).Perm (ks.map (·.1)) := by
  obtain ⟨-, ns, hns, hperm⟩ := h
  rw [keys_eq_of_forall₂ hns]
  exact hperm.map (·.1)

theorem alike : (Value.object ms).Alike (.object ks) := by
  obtain ⟨hkeys, ns, hns, hperm⟩ := h
  have htidy : ∀ m ∈ ms, m.2.Tidy := by
    have hand := hns.imp fun m n h => (⟨h.2.1, h⟩ : m.2.Tidy ∧ (m.1 = n.1 ∧ m.2.Alike n.2))
    exact ((List.forall₂_and_left ms ns).1 hand).1
  have hvalues : List.Forall₂ Value.Reordered (ms.map (·.2)) (ns.map (·.2)) :=
    List.forall₂_map_left_iff.2 (List.forall₂_map_right_iff.2 (hns.imp fun _ _ h => h.2.2))
  exact ⟨Value.tidy_object.2 ⟨hkeys, htidy⟩, .object (keys_eq_of_forall₂ hns) hvalues hperm⟩

/-- Under every key the same value is found, reordered. -/
theorem lookup (key : String) : Option.Rel Value.Alike (ms.lookup key) (ks.lookup key) := by
  obtain ⟨hkeys, ns, hns, hperm⟩ := h
  rw [← lookup_perm (keys_eq_of_forall₂ hns ▸ hkeys) hperm]
  clear hperm hkeys
  induction hns with
  | nil => exact .none
  | @cons m n _ _ h _ ih =>
    rw [List.lookup_cons, List.lookup_cons, h.1]
    cases key == n.1 with
    | true => exact .some h.2
    | false => exact ih

/-- Members that are taken by their keys are reordered likewise. -/
theorem filter (p : String → Bool) :
    MembersAlike (ms.filter fun m => p m.1) (ks.filter fun m => p m.1) := by
  obtain ⟨hkeys, ns, hns, hperm⟩ := h
  refine ⟨hkeys.sublist (List.filter_sublist.map _), ns.filter fun m => p m.1, ?_,
    hperm.filter _⟩
  clear hperm hkeys
  induction hns with
  | nil => exact .nil
  | @cons m n _ _ h _ ih =>
    rw [List.filter_cons, List.filter_cons, h.1]
    split
    · exact .cons h ih
    · exact ih

end MembersAlike

theorem MembersAlike.singleton {key : String} {v : Value} {ks : List (String × Value)}
    (h : MembersAlike [(key, v)] ks) : ∃ w, ks = [(key, w)] ∧ v.Alike w := by
  obtain ⟨-, ns, hns, hperm⟩ := h
  cases hns with
  | @cons _ n _ ns hn hrest =>
    cases hrest
    have hkey : key = n.1 := hn.1
    refine ⟨n.2, ?_, hn.2⟩
    rw [List.perm_singleton.1 hperm.symm, hkey]

theorem forall_mem_of_forall₂ {R : α → β → Prop} {p : β → Prop} {as : List α} {bs : List β}
    (h : List.Forall₂ R as bs) (hp : ∀ a ∈ as, ∀ b, R a b → p b) : ∀ b ∈ bs, p b := by
  induction h with
  | nil => nofun
  | @cons a b _ _ hab _ ih =>
    exact List.forall_mem_cons.2 ⟨hp a List.mem_cons_self b hab,
      ih fun a ha => hp a (List.mem_cons_of_mem _ ha)⟩

/-- A reordered value is tidy as well. -/
theorem Value.Alike.tidy {v w : Value} (h : v.Alike w) : w.Tidy := by
  induction v using Value.induction generalizing w with
  | array vs ih =>
    obtain ⟨ws, rfl, hws⟩ := h.array
    exact Value.tidy_array.2 (forall_mem_of_forall₂ hws fun v hv _ hvw => ih v hv hvw)
  | object ms ih =>
    obtain ⟨ks, rfl, hkeys, ns, hns, hperm⟩ := h.object
    have hkeys' : (ks.map (·.1)).Nodup :=
      (hperm.map (·.1)).nodup_iff.1 (keys_eq_of_forall₂ hns ▸ hkeys)
    have hns' : ∀ n ∈ ns, n.2.Tidy := forall_mem_of_forall₂ hns fun m hm _ hmn => ih m hm hmn.2
    exact Value.tidy_object.2 ⟨hkeys', fun k hk => hns' k (hperm.mem_iff.2 hk)⟩
  | null | bool | number | string =>
    cases h.2
    exact h.1

/-! ## Stable readers -/

/-- A reader that reads the same from a reordered value. -/
def Stable (read : Value → Option α) : Prop := ∀ v w, v.Alike w → read w = read v

theorem Stable.bind {read : Value → Option α} (h : Stable read) (f : α → Option β) :
    Stable fun v => (read v).bind f :=
  fun v w hvw => congrArg (·.bind f) (h v w hvw)

theorem Stable.map {read : Value → Option α} (h : Stable read) (f : α → β) :
    Stable fun v => (read v).map f :=
  fun v w hvw => congrArg (·.map f) (h v w hvw)

/-- A reader of what has no members is stable if it refuses all objects and arrays. -/
theorem stable_of_scalar {read : Value → Option α} (harray : ∀ vs, read (.array vs) = none)
    (hobject : ∀ ms, read (.object ms) = none) : Stable read := by
  rintro v w ⟨-, hvw⟩
  cases hvw with
  | same => rfl
  | array => rw [harray, harray]
  | object => rw [hobject, hobject]

theorem stable_bool : Stable Value.bool? := stable_of_scalar (fun _ => rfl) fun _ => rfl

theorem stable_string : Stable Value.string? := stable_of_scalar (fun _ => rfl) fun _ => rfl

theorem stable_signed (bits : Nat) : Stable (Value.signed? bits) :=
  stable_of_scalar (fun _ => rfl) fun _ => rfl

theorem stable_int32 : Stable Value.int32? := (stable_signed 32).map Int32.ofInt

theorem mapM_congr_of_forall₂ {f : α → Option β} {as bs : List α}
    (h : List.Forall₂ (fun a b => f b = f a) as bs) : bs.mapM f = as.mapM f := by
  induction h with
  | nil => rfl
  | cons h _ ih => rw [List.mapM_cons, List.mapM_cons, h, ih]

theorem stable_list {read : Value → Option α} (h : Stable read) :
    Stable (Value.list? read) := by
  intro v w hvw
  cases v with
  | array vs =>
    obtain ⟨ws, rfl, hws⟩ := hvw.array
    exact mapM_congr_of_forall₂ (hws.imp h)
  | object ms =>
    obtain ⟨ks, rfl, -⟩ := hvw.object
    rfl
  | null | bool | number | string =>
    cases hvw.2
    rfl

theorem mapM_perm {f : α → Option β} {as bs : List α} (h : as.Perm bs) :
    Option.Rel List.Perm (as.mapM f) (bs.mapM f) := by
  induction h with
  | nil => exact .some .nil
  | @cons a as bs _ ih =>
    rw [List.mapM_cons, List.mapM_cons]
    generalize as.mapM f = o, bs.mapM f = o' at ih ⊢
    cases f a with
    | none => exact .none
    | some b =>
      cases ih with
      | none => exact .none
      | some hperm => exact .some (hperm.cons b)
  | swap a a' as =>
    simp only [List.mapM_cons]
    cases f a with
    | none => cases f a' <;> exact .none
    | some b =>
      cases f a' with
      | none => exact .none
      | some b' =>
        cases as.mapM f with
        | none => exact .none
        | some bs => exact .some (.swap b b' bs)
  | @trans as bs cs _ _ ih ih' =>
    generalize as.mapM f = o, bs.mapM f = o', cs.mapM f = o'' at ih ih' ⊢
    cases ih with
    | none => exact ih'
    | some hperm =>
      cases ih' with
      | some hperm' => exact .some (hperm.trans hperm')

theorem stable_nullable {read : Value → Option α} (h : Stable read) : Stable (nullable read) := by
  intro v w hvw
  cases v with
  | array vs =>
    obtain ⟨ws, rfl, -⟩ := hvw.array
    exact (h.map some) _ _ hvw
  | object ms =>
    obtain ⟨ks, rfl, -⟩ := hvw.object
    exact (h.map some) _ _ hvw
  | null | bool | number | string =>
    cases hvw.2
    rfl

/-- A reader of objects with one member, which have but one order, only looks at its value. -/
theorem object_alike_of_single {read : List (String × Value) → Option α}
    (hother : ∀ ms, ms.length ≠ 1 → read ms = none) {ms ks : List (String × Value)}
    (h : MembersAlike ms ks)
    (hsingle : ∀ key v w, ms = [(key, v)] → v.Alike w → read [(key, w)] = read [(key, v)]) :
    read ks = read ms := by
  have hlength : ms.length = ks.length := by simpa using h.perm_keys.length_eq
  by_cases hone : ms.length = 1
  · obtain ⟨⟨key, v⟩, rfl⟩ := List.length_eq_one_iff.1 hone
    obtain ⟨w, rfl, hvw⟩ := h.singleton
    exact hsingle key v w rfl hvw
  · rw [hother ms hone, hother ks (hlength ▸ hone)]

theorem caseName?_eq_none {ms : List (String × Value)} (h : ms.length ≠ 1) :
    (Value.object ms).caseName? = none := by
  unfold Value.caseName?
  split
  · rename_i heq
    cases heq
  · rename_i heq
    cases heq
    exact absurd rfl h
  · rfl

theorem stable_caseName : Stable Value.caseName? := by
  intro v w hvw
  cases v with
  | array vs =>
    obtain ⟨ws, rfl, -⟩ := hvw.array
    rfl
  | object ms =>
    obtain ⟨ks, rfl, hks⟩ := hvw.object
    have hsingle : ∀ key v w, ms = [(key, v)] → v.Alike w →
        (Value.object [(key, w)]).caseName? = (Value.object [(key, v)]).caseName? := by
      intro key v w _ hvw
      cases v with
      | array vs =>
        obtain ⟨ws, rfl, -⟩ := hvw.array
        rfl
      | object ms =>
        obtain ⟨ks, rfl, -⟩ := hvw.object
        rfl
      | null | bool | number | string =>
        cases hvw.2
        rfl
    exact object_alike_of_single (fun _ => caseName?_eq_none) hks hsingle
  | null | bool | number | string =>
    cases hvw.2
    rfl

/-! ## Records -/

/-- What is given for the fields of a record is reordered. -/
def GivenAlike (given given' : String → Option Value) : Prop :=
  ∀ field, Option.Rel Value.Alike (given field) (given' field)

theorem mandatory_alike {read : Value → Option α} (h : Stable read) {o o' : Option Value}
    (ho : Option.Rel Value.Alike o o') : mandatory o' read = mandatory o read := by
  cases ho with
  | none => rfl
  | some hvw => exact h _ _ hvw

theorem defaulted_alike {read : Value → Option α} (h : Stable read) {o o' : Option Value}
    (ho : Option.Rel Value.Alike o o') (fallback : α) :
    defaulted o' fallback read = defaulted o fallback read := by
  cases ho with
  | none => rfl
  | some hvw => exact h _ _ hvw

theorem optional_alike {read : Value → Option α} (h : Stable read) {o o' : Option Value}
    (ho : Option.Rel Value.Alike o o') : optional o' read = optional o read :=
  defaulted_alike (stable_nullable h) ho none

theorem lookup_zip_alike (fields : List String) {vs ws : List Value}
    (h : List.Forall₂ Value.Alike vs ws) (field : String) :
    Option.Rel Value.Alike ((fields.zip vs).lookup field) ((fields.zip ws).lookup field) := by
  induction h generalizing fields with
  | nil => cases fields <;> exact .none
  | @cons v w vs ws hvw _ ih =>
    cases fields with
    | nil => exact .none
    | cons f fields =>
      rw [List.zip_cons_cons, List.zip_cons_cons, List.lookup_cons, List.lookup_cons]
      cases field == f with
      | true => exact .some hvw
      | false => exact ih fields

/-- The fields of an object are given by their names, those of an array by their positions. -/
theorem record?_alike (fields : List String) {v w : Value} (h : v.Alike w) :
    Option.Rel GivenAlike (v.record? fields) (w.record? fields) := by
  cases v with
  | array vs =>
    obtain ⟨ws, rfl, hws⟩ := h.array
    rw [Value.record?, Value.record?, hws.length_eq]
    split
    · exact .some (lookup_zip_alike fields hws)
    · exact .none
  | object ms =>
    obtain ⟨ks, rfl, hks⟩ := h.object
    have hlength : ∀ field,
        (ks.filter (·.1 = field)).length = (ms.filter (·.1 = field)).length := by
      intro field
      simpa using ((hks.filter (· = field)).perm_keys.length_eq).symm
    simp only [Value.record?, hlength]
    split
    · exact .some hks.lookup
    · exact .none
  | null | bool | number | string =>
    cases h.2
    exact .none

/-- A reader of records is stable if it makes the same of fields that are reordered. -/
theorem stable_record {fields : List String} {make : (String → Option Value) → Option α}
    (h : ∀ given given', GivenAlike given given' → make given' = make given) :
    Stable fun v => (v.record? fields).bind make := by
  intro v w hvw
  have hgiven := record?_alike fields hvw
  dsimp only
  generalize v.record? fields = o, w.record? fields = o' at hgiven
  cases hgiven with
  | none => rfl
  | some hgiven => exact h _ _ hgiven

end Metatype.Json

/-! ## Maps -/

namespace Metatype

open Json

variable {α : Type}

namespace OrderedMap

theorem perm_insertEntry {key : String} {l : List (String × α)} (h : key ∉ l.map (·.1)) (a : α) :
    (insertEntry key a l).Perm ((key, a) :: l) := by
  induction l with
  | nil => exact .refl _
  | cons e rest ih =>
    rw [List.map_cons, List.mem_cons, not_or] at h
    rw [insertEntry]
    split
    · exact .refl _
    · rename_i hle
      split
      · exact ((ih h.2).cons e).trans (.swap _ _ rest)
      · rename_i hge
        exact absurd (String.le_antisymm hge hle) h.1

theorem perm_toList_foldl_insert (m : OrderedMap α) {entries : List (String × α)}
    (h : ((m.toList ++ entries).map (·.1)).Nodup) :
    (entries.foldl (fun m e => m.insert e.1 e.2) m).toList.Perm (m.toList ++ entries) := by
  induction entries generalizing m with
  | nil => simp
  | cons e rest ih =>
    have hmove : (m.toList ++ e :: rest).Perm (e :: m.toList ++ rest) := List.perm_middle
    have hnodup := (hmove.map (·.1)).nodup_iff.1 h
    have hnew : e.1 ∉ m.toList.map (·.1) := by
      rw [List.cons_append, List.map_cons, List.nodup_cons, List.map_append] at hnodup
      exact fun hmem => hnodup.1 (List.mem_append_left _ hmem)
    have hstep : (m.insert e.1 e.2).toList.Perm (e :: m.toList) := perm_insertEntry hnew e.2
    have hnodup' : (((m.insert e.1 e.2).toList ++ rest).map (·.1)).Nodup :=
      (((hstep.append_right rest).map (·.1)).nodup_iff).2 hnodup
    exact ((ih _ hnodup').trans (hstep.append_right rest)).trans hmove.symm

/-- Entries with distinct keys make the same map in any order. -/
theorem ofList_perm {l l' : List (String × α)} (h : (l.map (·.1)).Nodup) (hperm : l.Perm l') :
    ofList l = ofList l' := by
  have hl : (ofList l).toList.Perm l := perm_toList_foldl_insert empty h
  have hl' : (ofList l').toList.Perm l' :=
    perm_toList_foldl_insert empty ((hperm.map (·.1)).nodup_iff.1 h)
  refine ext (((hl.trans hperm).trans hl'.symm).eq_of_pairwise ?_ (ofList l).ascending
    (ofList l').ascending)
  intro a b _ _ hab hba
  exact absurd hba (String.lt_asymm hab)

end OrderedMap

theorem keys_of_mapM {read : Value → Option α} {ms : List (String × Value)}
    {entries : List (String × α)}
    (h : ms.mapM (fun m => (read m.2).map (m.1, ·)) = some entries) :
    entries.map (·.1) = ms.map (·.1) := by
  induction ms generalizing entries with
  | nil =>
    cases h
    rfl
  | cons m rest ih =>
    rw [List.mapM_cons, Option.bind_eq_bind, Option.bind_eq_some_iff] at h
    obtain ⟨e, he, h⟩ := h
    obtain ⟨a, -, rfl⟩ := Option.map_eq_some_iff.1 he
    obtain ⟨others, hothers, heq⟩ := Option.bind_eq_some_iff.1 h
    cases heq
    rw [List.map_cons, List.map_cons, ih hothers]

theorem stable_map {read : Value → Option α} (h : Stable read) :
    Stable (OrderedMap.ofJson? read) := by
  intro v w hvw
  cases v with
  | object ms =>
    obtain ⟨ks, rfl, hkeys, ns, hns, hperm⟩ := hvw.object
    have hread : ns.mapM (fun m => (read m.2).map (m.1, ·)) =
        ms.mapM (fun m => (read m.2).map (m.1, ·)) :=
      mapM_congr_of_forall₂ (hns.imp fun m n hmn => by rw [hmn.1, h _ _ hmn.2])
    have horder := mapM_perm (f := fun m => (read m.2).map (m.1, ·)) hperm
    rw [OrderedMap.ofJson?, OrderedMap.ofJson?, ← hread]
    cases hentries : ns.mapM (fun m => (read m.2).map (m.1, ·)) with
    | none =>
      rw [hentries] at horder
      generalize ks.mapM (fun m => (read m.2).map (m.1, ·)) = o at horder
      cases horder
      rfl
    | some entries =>
      rw [hentries] at horder
      generalize ks.mapM (fun m => (read m.2).map (m.1, ·)) = o at horder
      cases horder with
      | some hentry =>
        have hnodup : (entries.map (·.1)).Nodup := by
          rw [keys_of_mapM hentries, ← keys_eq_of_forall₂ hns]
          exact hkeys
        exact congrArg some (OrderedMap.ofList_perm hnodup hentry).symm
  | array vs =>
    obtain ⟨ws, rfl, -⟩ := hvw.array
    rfl
  | null | bool | number | string =>
    cases hvw.2
    rfl

end Metatype
