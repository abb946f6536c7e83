import Metatype.Proofs.JsonText

/-!
# Reading what is written

A tidy value is read back from every text that spells it, whatever follows, unless it is nested too
deep; then nothing is read. So the limit on the depth takes values away and changes none.

* `Json.value_of_spelledBy`: a value is read from its texts.
* `Json.value_mono`, `Json.depth_le_of_value`: the depth that is allowed bounds what is read, and
  does nothing else.
* `Json.parsePrefix_of_spells`, `Json.parsePrefix_eq_none`: what is read from a whole text.
* `Json.parse_eq_some_iff`: a text gives its value back just if that is not too deep.
-/

namespace Metatype.Json

variable {α β : Type}

/-! ## Starts of values -/

theorem isBlank_of_isDigit {c : Char} (h : c.isDigit = true) : isBlank c = false := by
  rw [Bool.eq_false_iff]
  intro hblank
  simp only [isBlank, Bool.or_eq_true, decide_eq_true_eq] at hblank
  rcases hblank with ((rfl | rfl) | rfl) | rfl <;> cases h

theorem exists_head_spelledBy {v : Value} (hv : v.Tidy) {s : List Char} (hs : v.SpelledBy s) :
    ∃ c u, s = c :: u ∧ isBlank c = false ∧ c ≠ ']' := by
  cases v with
  | null => exact ⟨'n', _, hs, by decide, by decide⟩
  | bool b =>
    cases b with
    | false => exact ⟨'f', _, hs, by decide, by decide⟩
    | true => exact ⟨'t', _, hs, by decide, by decide⟩
  | number n =>
    cases n with
    | integer i =>
      obtain ⟨c, u, htext, hc⟩ := exists_head_integerText i
      refine ⟨c, u, hs.trans htext, ?_⟩
      rcases hc with rfl | hc
      · exact ⟨by decide, by decide⟩
      · refine ⟨isBlank_of_isDigit hc, ?_⟩
        rintro rfl
        cases hc
    | decimal => exact hv.elim
  | string t => exact ⟨'"', _, hs, by decide, by decide⟩
  | array vs =>
    obtain ⟨body, -, rfl⟩ := hs
    exact ⟨'[', _, rfl, by decide, by decide⟩
  | object ms =>
    obtain ⟨body, -, rfl⟩ := hs
    exact ⟨'\x7b', _, rfl, by decide, by decide⟩

/-! ## Reading values -/

/-- What spells the value is read as the value, with a depth allowed. -/
def ReadsAs (d : Nat) (v : Value) : Prop :=
  ∀ s, v.SpelledBy s → ∀ rest, EndsNumber rest → value d (s ++ rest) = some (v, rest)

theorem endsNumber_of_mem {c : Char} (h : c ∈ [',', ']', '\x7d']) (rest : List Char) :
    EndsNumber (c :: rest) := by
  intro c' hc'
  cases hc'
  simp only [List.mem_cons, List.not_mem_nil, or_false] at h
  rcases h with rfl | rfl | rfl <;> decide

theorem value_padded {v : Value} (hv : v.Tidy) {d : Nat} (h : ReadsAs d v) {s : List Char}
    (hs : Padded v.SpelledBy s) {rest : List Char} (hrest : EndsNumber rest) :
    ∃ after, Blanks after ∧ value d (skip (s ++ rest)) = some (v, after ++ rest) := by
  obtain ⟨before, t, after, hbefore, ht, hafter, rfl⟩ := hs
  refine ⟨after, hafter, ?_⟩
  obtain ⟨c, u, rfl, hc, -⟩ := exists_head_spelledBy hv ht
  rw [List.append_assoc, skip_append hbefore, List.append_assoc, List.cons_append, skip_cons hc,
    ← List.cons_append]
  exact h _ ht _ (hrest.append hafter)

theorem readsElements_items {vs : List Value} (hv : ∀ v ∈ vs, v.Tidy) {d : Nat}
    (h : ∀ v ∈ vs, ReadsAs d v) :
    ReadsElements (fun s => value d (skip s)) ']' (fun v => Padded v.SpelledBy) vs where
  skips s := by rw [skip_skip]
  starts v hmem s hs := by
    obtain ⟨before, t, after, hbefore, ht, -, rfl⟩ := hs
    obtain ⟨c, u, rfl, hc, hne⟩ := exists_head_spelledBy (hv v hmem) ht
    exact ⟨before, c, u ++ after, hbefore, hc, hne, rfl⟩
  reads v hmem s hs c hc rest := by
    have hcmem : c ∈ [',', ']', '\x7d'] := by rcases hc with rfl | rfl <;> decide
    obtain ⟨after, hafter, hread⟩ :=
      value_padded (hv v hmem) (h v hmem) hs (endsNumber_of_mem hcmem rest)
    have hsolid : isBlank c = false := by rcases hc with rfl | rfl <;> decide
    exact ⟨_, hread, by rw [skip_append hafter, skip_cons hsolid]⟩

theorem member_memberText {v : Value} (hv : v.Tidy) {d : Nat} (h : ReadsAs d v) {key : String}
    {s : List Char} (hs : MemberText key v.SpelledBy s) {rest : List Char}
    (hrest : EndsNumber rest) :
    ∃ after, Blanks after ∧ member (value d) (s ++ rest) = some ((key, v), after ++ rest) := by
  obtain ⟨before, between, t, hbefore, hbetween, ht, rfl⟩ := hs
  obtain ⟨after, hafter, hread⟩ := value_padded hv h ht hrest
  refine ⟨after, hafter, ?_⟩
  have hkey : string (skip (before ++ (quote key ++ (between ++ ':' :: t)) ++ rest)) =
      some (key, between ++ ':' :: (t ++ rest)) := by
    have hquote : quote key ++ (between ++ ':' :: (t ++ rest)) =
        '"' :: (key.toList.flatMap escape ++ '"' :: (between ++ ':' :: (t ++ rest))) := by
      simp [quote]
    have hassoc : before ++ (quote key ++ (between ++ ':' :: t)) ++ rest =
        before ++ (quote key ++ (between ++ ':' :: (t ++ rest))) := by
      simp
    rw [hassoc, skip_append hbefore, hquote, skip_cons (by decide), ← hquote, string_quote]
  have hcolon : skip (between ++ ':' :: (t ++ rest)) = ':' :: (t ++ rest) := by
    rw [skip_append hbetween, skip_cons (by decide)]
  simp only [member, hkey, Option.bind_eq_bind, Option.bind_some, hcolon, hread, Option.pure_def]

theorem readsElements_members {ms : List (String × Value)} (hv : ∀ m ∈ ms, m.2.Tidy) {d : Nat}
    (h : ∀ m ∈ ms, ReadsAs d m.2) :
    ReadsElements (member (value d)) '\x7d' (fun m => MemberText m.1 m.2.SpelledBy) ms where
  skips s := by rw [member, member, skip_skip]
  starts m hmem s hs := by
    obtain ⟨before, between, t, hbefore, -, -, rfl⟩ := hs
    exact ⟨before, '"', _, hbefore, by decide, by decide, rfl⟩
  reads m hmem s hs c hc rest := by
    have hcmem : c ∈ [',', ']', '\x7d'] := by rcases hc with rfl | rfl <;> decide
    obtain ⟨after, hafter, hread⟩ :=
      member_memberText (hv m hmem) (h m hmem) hs (endsNumber_of_mem hcmem rest)
    have hsolid : isBlank c = false := by rcases hc with rfl | rfl <;> decide
    exact ⟨_, hread, by rw [skip_append hafter, skip_cons hsolid]⟩

theorem value_eq_scalar {c : Char} (hbracket : c ≠ '[') (hbrace : c ≠ '\x7b') (d : Nat)
    (s : List Char) : value d (c :: s) = scalar (c :: s) := by
  cases d with
  | zero => rfl
  | succ d =>
    rw [value]
    · rintro rest ⟨⟩
      exact hbracket rfl
    · rintro rest ⟨⟩
      exact hbrace rfl

theorem value_nil (d : Nat) : value d [] = none := by
  cases d <;> rfl

theorem scalar_eq_number {c : Char} (h : c = '-' ∨ c.isDigit = true) (s : List Char) :
    scalar (c :: s) = (number (c :: s)).map fun found => (.number found.1, found.2) := by
  unfold scalar
  split
  case h_5 => rfl
  all_goals
    rename_i hcons
    cases hcons
    rcases h with h | h <;> cases h

theorem readsAs_integer {i : Int} (h : IsInt64 i) (d : Nat) :
    ReadsAs d (.number (.integer i)) := by
  intro s hs rest hrest
  have htext : s = integerText i := hs
  obtain ⟨c, u, hcons, hc⟩ := exists_head_integerText i
  have hbracket : c ≠ '[' := by
    rcases hc with rfl | hc
    · decide
    · rintro rfl
      cases hc
  have hbrace : c ≠ '\x7b' := by
    rcases hc with rfl | hc
    · decide
    · rintro rfl
      cases hc
  have hread := number_integerText h hrest
  rw [hcons, List.cons_append] at hread
  rw [htext, hcons, List.cons_append, value_eq_scalar hbracket hbrace, scalar_eq_number hc, hread]
  rfl

theorem readsAs_string (t : String) (d : Nat) : ReadsAs d (.string t) := by
  intro s hs rest _
  have htext : s ++ rest = '"' :: (t.toList.flatMap escape ++ '"' :: rest) := by
    have hquote : s = quote t := hs
    rw [hquote]
    simp [quote]
  rw [htext, value_eq_scalar (by decide) (by decide), scalar, stringBody_quoted]
  simp

/-- A tidy value is read from every text that spells it, if it is not nested deeper than allowed. -/
theorem value_of_spelledBy {v : Value} (hv : v.Tidy) {d : Nat} (hd : v.depth ≤ d) :
    ReadsAs d v := by
  induction v using Value.induction generalizing d with
  | null =>
    rintro s rfl rest -
    cases d <;> rfl
  | bool b =>
    rintro s rfl rest -
    cases b <;> cases d <;> rfl
  | number n =>
    cases n with
    | integer i => exact readsAs_integer hv d
    | decimal => exact hv.elim
  | string t => exact readsAs_string t d
  | array vs ih =>
    obtain ⟨d, rfl⟩ : ∃ n, d = n + 1 :=
      Nat.exists_eq_add_one.2 (Nat.lt_of_lt_of_le (by simp [Value.depth]) hd)
    have htidy := Value.tidy_array.1 hv
    have hdepth := Value.depth_array_le.1 hd
    intro s hs rest _
    obtain ⟨body, hbody, rfl⟩ := spelledBy_array.1 hs
    have hreads := readsElements_items htidy fun v hmem => ih v hmem (htidy v hmem) (hdepth v hmem)
    rw [List.cons_append, List.append_assoc, List.singleton_append, value]
    exact arrayBody_listed hreads hbody rest
  | object ms ih =>
    obtain ⟨d, rfl⟩ : ∃ n, d = n + 1 :=
      Nat.exists_eq_add_one.2 (Nat.lt_of_lt_of_le (by simp [Value.depth]) hd)
    have htidy := (Value.tidy_object.1 hv).2
    have hdepth := Value.depth_object_le.1 hd
    intro s hs rest _
    obtain ⟨body, hbody, rfl⟩ := spelledBy_object.1 hs
    have hreads :=
      readsElements_members htidy fun m hmem => ih m hmem (htidy m hmem) (hdepth m hmem)
    rw [List.cons_append, List.append_assoc, List.singleton_append, value]
    exact objectBody_listed hreads hbody rest

/-! ## Depth -/

/-- A reader of elements that reads more gives a reader of lists that reads more. -/
theorem sequence_mono {element element' : List Char → Option (α × List Char)} {close : Char}
    (h : ∀ s found, element s = some found → element' s = some found) {fuel : Nat}
    {s : List Char} {found : List α × List Char}
    (hs : sequence element close fuel s = some found) :
    sequence element' close fuel s = some found := by
  induction fuel generalizing s found with
  | zero => cases hs
  | succ fuel ih =>
    rw [sequence] at hs ⊢
    cases hread : element s with
    | none =>
      rw [hread] at hs
      cases hs
    | some first =>
      rw [hread] at hs
      rw [h s first hread]
      dsimp only at hs ⊢
      cases hskip : skip first.2 with
      | nil =>
        rw [hskip] at hs
        cases hs
      | cons c rest =>
        rw [hskip] at hs
        dsimp only at hs ⊢
        by_cases hcomma : c = ','
        · rw [if_pos hcomma] at hs ⊢
          obtain ⟨others, hothers, rfl⟩ := Option.map_eq_some_iff.1 hs
          rw [ih hothers]
          rfl
        · rw [if_neg hcomma] at hs ⊢
          exact hs

/-- Every element of a list was read from some text. -/
theorem exists_element_of_sequence {element : List Char → Option (α × List Char)} {close : Char}
    {fuel : Nat} {s : List Char} {as : List α} {rest : List Char}
    (hs : sequence element close fuel s = some (as, rest)) :
    ∀ a ∈ as, ∃ t u, element t = some (a, u) := by
  induction fuel generalizing s as rest with
  | zero => cases hs
  | succ fuel ih =>
    rw [sequence] at hs
    cases hread : element s with
    | none =>
      rw [hread] at hs
      cases hs
    | some first =>
      rw [hread] at hs
      have hfirst : ∃ t u, element t = some (first.1, u) := ⟨s, first.2, hread⟩
      dsimp only at hs
      cases hskip : skip first.2 with
      | nil =>
        rw [hskip] at hs
        cases hs
      | cons c tail =>
        rw [hskip] at hs
        dsimp only at hs
        split at hs
        · obtain ⟨others, hothers, heq⟩ := Option.map_eq_some_iff.1 hs
          cases heq
          exact List.forall_mem_cons.2 ⟨hfirst, ih hothers⟩
        · split at hs
          · cases hs
            exact List.forall_mem_singleton.2 hfirst
          · cases hs

/-- What a reader of members reads, it reads by a reader of values. -/
theorem exists_value_of_member {one : List Char → Option (Value × List Char)} {s : List Char}
    {m : String × Value} {rest : List Char} (h : member one s = some (m, rest)) :
    ∃ t, one t = some (m.2, rest) ∧
      ∀ one', one' t = some (m.2, rest) → member one' s = some (m, rest) := by
  unfold member at h ⊢
  cases hkey : string (skip s) with
  | none =>
    rw [hkey] at h
    cases h
  | some found =>
    rw [hkey] at h
    simp only [Option.bind_eq_bind, Option.bind_some] at h ⊢
    split at h
    · rename_i t hcolon
      obtain ⟨read, hread, heq⟩ := Option.bind_eq_some_iff.1 h
      cases heq
      exact ⟨skip t, hread, fun one' h' => by rw [h']; rfl⟩
    · cases h

section Bodies

variable {one one' : List Char → Option (Value × List Char)}

theorem arrayBody_mono (h : ∀ s found, one s = some found → one' s = some found)
    {s : List Char} {found : Value × List Char} (hs : arrayBody one s = some found) :
    arrayBody one' s = some found := by
  unfold arrayBody at hs ⊢
  split at hs
  · exact hs
  · obtain ⟨items, hitems, rfl⟩ := Option.map_eq_some_iff.1 hs
    rw [items_eq_sequence] at hitems ⊢
    rw [sequence_mono (fun s found => h (skip s) found) hitems]
    rfl

theorem objectBody_mono (h : ∀ s found, one s = some found → one' s = some found)
    {s : List Char} {found : Value × List Char} (hs : objectBody one s = some found) :
    objectBody one' s = some found := by
  unfold objectBody at hs ⊢
  split at hs
  · exact hs
  · obtain ⟨members, hmembers, rfl⟩ := Option.map_eq_some_iff.1 hs
    have hmember : ∀ s found, member one s = some found → member one' s = some found := by
      intro s found hread
      obtain ⟨t, ht, hmember⟩ := exists_value_of_member hread
      exact hmember one' (h t _ ht)
    rw [members_eq_sequence] at hmembers ⊢
    rw [sequence_mono hmember hmembers]
    rfl

theorem depth_le_of_arrayBody {d : Nat} (h : ∀ s v rest, one s = some (v, rest) → v.depth ≤ d)
    {s : List Char} {v : Value} {rest : List Char} (hs : arrayBody one s = some (v, rest)) :
    v.depth ≤ d + 1 := by
  unfold arrayBody at hs
  split at hs
  · cases hs
    exact Value.depth_array_le.2 nofun
  · obtain ⟨items, hitems, heq⟩ := Option.map_eq_some_iff.1 hs
    cases heq
    rw [items_eq_sequence] at hitems
    refine Value.depth_array_le.2 fun v hv => ?_
    obtain ⟨t, u, hread⟩ := exists_element_of_sequence hitems v hv
    exact h _ _ _ hread

theorem depth_le_of_objectBody {d : Nat} (h : ∀ s v rest, one s = some (v, rest) → v.depth ≤ d)
    {s : List Char} {v : Value} {rest : List Char} (hs : objectBody one s = some (v, rest)) :
    v.depth ≤ d + 1 := by
  unfold objectBody at hs
  split at hs
  · cases hs
    exact Value.depth_object_le.2 nofun
  · obtain ⟨members, hmembers, heq⟩ := Option.map_eq_some_iff.1 hs
    cases heq
    rw [members_eq_sequence] at hmembers
    refine Value.depth_object_le.2 fun m hm => ?_
    obtain ⟨t, u, hread⟩ := exists_element_of_sequence hmembers m hm
    obtain ⟨t', hvalue, -⟩ := exists_value_of_member hread
    exact h _ _ _ hvalue

end Bodies

theorem scalar_bracket (s : List Char) : scalar ('[' :: s) = none := value_zero_array s

theorem scalar_brace (s : List Char) : scalar ('\x7b' :: s) = none := by
  simp [scalar, number, unsignedNumber, wholeDigits, digits, digit?, Char.isDigit]

theorem depth_of_scalar {s : List Char} {v : Value} {rest : List Char}
    (h : scalar s = some (v, rest)) : v.depth = 0 := by
  unfold scalar at h
  split at h
  case h_4 | h_5 =>
    obtain ⟨found, -, heq⟩ := Option.map_eq_some_iff.1 h
    cases heq
    rfl
  all_goals
    cases h
    rfl

/-- An allowance of more depth takes nothing away that is read. -/
theorem value_succ {d : Nat} {s : List Char} {found : Value × List Char}
    (h : value d s = some found) : value (d + 1) s = some found := by
  induction d generalizing s found with
  | zero =>
    cases s with
    | nil => cases (value_nil 0).symm.trans h
    | cons c s =>
      by_cases hbracket : c = '['
      · subst hbracket
        cases (scalar_bracket s).symm.trans h
      · by_cases hbrace : c = '\x7b'
        · subst hbrace
          cases (scalar_brace s).symm.trans h
        · rw [value_eq_scalar hbracket hbrace] at h ⊢
          exact h
  | succ d ih =>
    cases s with
    | nil => cases (value_nil (d + 1)).symm.trans h
    | cons c s =>
      by_cases hbracket : c = '['
      · subst hbracket
        exact arrayBody_mono (fun _ _ => ih) h
      · by_cases hbrace : c = '\x7b'
        · subst hbrace
          exact objectBody_mono (fun _ _ => ih) h
        · rw [value_eq_scalar hbracket hbrace] at h ⊢
          exact h

theorem value_mono {d e : Nat} (hde : d ≤ e) {s : List Char} {found : Value × List Char}
    (h : value d s = some found) : value e s = some found := by
  induction hde with
  | refl => exact h
  | step _ ih => exact value_succ ih

/-- Nothing is read that is nested deeper than allowed. -/
theorem depth_le_of_value {d : Nat} {s : List Char} {v : Value} {rest : List Char}
    (h : value d s = some (v, rest)) : v.depth ≤ d := by
  induction d generalizing s v rest with
  | zero => exact Nat.le_of_eq (depth_of_scalar h)
  | succ d ih =>
    cases s with
    | nil => cases (value_nil (d + 1)).symm.trans h
    | cons c s =>
      by_cases hbracket : c = '['
      · subst hbracket
        exact depth_le_of_arrayBody (fun _ _ _ => ih) h
      · by_cases hbrace : c = '\x7b'
        · subst hbrace
          exact depth_le_of_objectBody (fun _ _ _ => ih) h
        · rw [value_eq_scalar hbracket hbrace] at h
          rw [depth_of_scalar h]
          exact Nat.zero_le _

/-! ## Whole texts -/

section Texts

variable {v : Value} (hv : v.Tidy) {text : String} (h : v.Spells text)

include hv h

/-- The value of a text is read, with blanks left at the end, if it is not nested too deep. -/
theorem parsePrefix_of_spells (hd : v.depth ≤ maxDepth) :
    ∃ after, Blanks after ∧ Value.parsePrefix text = some (v, after) := by
  obtain ⟨after, hafter, hread⟩ :=
    value_padded hv (value_of_spelledBy hv hd) h endsNumber_nil
  rw [List.append_nil, List.append_nil] at hread
  exact ⟨after, hafter, hread⟩

/-- Of the text of a value that is nested too deep nothing is read. -/
theorem parsePrefix_eq_none (hd : maxDepth < v.depth) : Value.parsePrefix text = none := by
  -- With more depth allowed the value itself would be read, so nothing else is read with less.
  obtain ⟨after, -, hread⟩ :=
    value_padded hv (value_of_spelledBy hv (Nat.le_refl _)) h endsNumber_nil
  cases hparse : Value.parsePrefix text with
  | none => rfl
  | some found =>
    have hmore := value_mono (Nat.le_of_lt hd) hparse
    rw [List.append_nil, List.append_nil, hmore] at hread
    cases hread
    exact absurd (depth_le_of_value hparse) (Nat.not_le_of_lt hd)

/-- A text gives back the value that it spells just if the value is not nested too deep. -/
theorem parse_eq_some_iff : Value.parse text = some v ↔ v.depth ≤ maxDepth := by
  constructor
  · refine fun hparse => Nat.not_lt.1 fun hd => ?_
    rw [Value.parse, parsePrefix_eq_none hv h hd] at hparse
    cases hparse
  · intro hd
    obtain ⟨after, hafter, hread⟩ := parsePrefix_of_spells hv h hd
    rw [Value.parse, hread]
    dsimp only
    rw [skip_blanks hafter]
    rfl

end Texts

end Metatype.Json
