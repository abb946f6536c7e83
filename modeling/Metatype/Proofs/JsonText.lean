import Metatype.Proofs.JsonToken

/-!
# Texts of JSON values

A text spells a value if it has the tokens of the value in order, with any blanks between them. The
items of an array and the members of an object are read by one loop, which reads any elements that
are separated by commas.

* `Json.Value.SpelledBy`, `Json.Value.Spells`: the texts of a value.
* `Json.Value.spells_compact`, `Json.Value.spells_pretty`: printed forms are such texts.
* `Json.ReadsElements.exists_sequence`: elements are read, if each of them is.
* `Json.arrayBody_listed`, `Json.objectBody_listed`: so are arrays and objects.
-/

namespace Metatype.Json

variable {α : Type}

/-! ## Blanks -/

/-- Only blanks. -/
def Blanks (s : List Char) : Prop := ∀ c ∈ s, isBlank c = true

theorem skip_append {before : List Char} (h : Blanks before) (s : List Char) :
    skip (before ++ s) = skip s :=
  List.dropWhile_append_of_pos h

theorem skip_cons {c : Char} (h : isBlank c = false) (s : List Char) : skip (c :: s) = c :: s :=
  List.dropWhile_cons_of_neg (by simp [h])

theorem skip_blanks {s : List Char} (h : Blanks s) : skip s = [] := by
  simpa [skip] using skip_append h []

theorem skip_skip (s : List Char) : skip (skip s) = skip s := by
  induction s with
  | nil => rfl
  | cons c s ih =>
    by_cases hc : isBlank c = true
    · have hskip : skip (c :: s) = skip s := List.dropWhile_cons_of_pos hc
      rw [hskip, ih]
    · rw [skip_cons (by simpa using hc), skip_cons (by simpa using hc)]

theorem endsNumber_of_isBlank {c : Char} (h : isBlank c = true) (s : List Char) :
    EndsNumber (c :: s) := by
  intro c' hc'
  cases hc'
  simp only [isBlank, Bool.or_eq_true, decide_eq_true_eq] at h
  rcases h with ((rfl | rfl) | rfl) | rfl <;> decide

/-- Blanks do not change whether a number ends. -/
theorem EndsNumber.append {rest : List Char} (h : EndsNumber rest) {after : List Char}
    (hafter : Blanks after) : EndsNumber (after ++ rest) := by
  cases after with
  | nil => exact h
  | cons c after => exact endsNumber_of_isBlank (hafter c List.mem_cons_self) _

/-! ## Elements between commas -/

/-- A text with blanks around it. -/
def Padded (P : List Char → Prop) (s : List Char) : Prop :=
  ∃ before t after, Blanks before ∧ P t ∧ Blanks after ∧ s = before ++ (t ++ after)

/-- The texts of some elements with commas between them, or only blanks if there are none. -/
def Listed (P : α → List Char → Prop) : List α → List Char → Prop
  | [], s => Blanks s
  | [a], s => P a s
  | a :: rest, s => ∃ first others, P a first ∧ Listed P rest others ∧ s = first ++ ',' :: others

/-- Reads one or more elements that are separated by commas, up to and with a closing character. -/
def sequence (element : List Char → Option (α × List Char)) (close : Char) :
    Nat → List Char → Option (List α × List Char)
  | 0, _ => none
  | fuel + 1, s =>
    match element s with
    | none => none
    | some (a, s) =>
      match skip s with
      | [] => none
      | c :: rest =>
        if c = ',' then
          (sequence element close fuel rest).map fun found => (a :: found.1, found.2)
        else if c = close then some ([a], rest)
        else none

theorem items_eq_sequence (one : List Char → Option (Value × List Char)) (fuel : Nat)
    (s : List Char) : items one fuel s = sequence (fun s => one (skip s)) ']' fuel s := by
  induction fuel generalizing s with
  | zero => rfl
  | succ fuel ih =>
    rw [items, sequence]
    cases one (skip s) with
    | none => rfl
    | some found =>
      simp only [Option.bind_eq_bind, Option.bind_some, ih]
      generalize skip found.2 = rest
      cases rest with
      | nil => rfl
      | cons c rest =>
        by_cases hcomma : c = ','
        · subst hcomma
          cases h : sequence (fun s => one (skip s)) ']' fuel rest <;> simp [h]
        · by_cases hclose : c = ']'
          · subst hclose
            rfl
          · simp [hcomma, hclose]

theorem members_eq_sequence (one : List Char → Option (Value × List Char)) (fuel : Nat)
    (s : List Char) : members one fuel s = sequence (member one) '\x7d' fuel s := by
  induction fuel generalizing s with
  | zero => rfl
  | succ fuel ih =>
    rw [members, sequence]
    cases member one s with
    | none => rfl
    | some found =>
      simp only [Option.bind_eq_bind, Option.bind_some, ih]
      generalize skip found.2 = rest
      cases rest with
      | nil => rfl
      | cons c rest =>
        by_cases hcomma : c = ','
        · subst hcomma
          cases h : sequence (member one) '\x7d' fuel rest <;> simp [h]
        · by_cases hclose : c = '\x7d'
          · subst hclose
            rfl
          · simp [hcomma, hclose]

/-! ## Reading elements -/

/-- How much of a text is not blank. -/
def solid (s : List Char) : Nat := s.countP fun c => !isBlank c

theorem solid_append (s t : List Char) : solid (s ++ t) = solid s + solid t := List.countP_append

theorem solid_skip (s : List Char) : solid (skip s) = solid s := by
  induction s with
  | nil => rfl
  | cons c s ih =>
    by_cases hc : isBlank c = true
    · have hskip : skip (c :: s) = skip s := List.dropWhile_cons_of_pos hc
      rw [hskip, ih, solid, solid, List.countP_cons_of_neg (by simp [hc])]
    · rw [skip_cons (by simpa using hc)]

/-- Blanks aside, a text starts with a character of some kind. -/
def StartsWith (P : Char → Prop) (s : List Char) : Prop :=
  ∃ before c u, Blanks before ∧ isBlank c = false ∧ P c ∧ s = before ++ c :: u

theorem StartsWith.append {P : Char → Prop} {s : List Char} (h : StartsWith P s)
    (t : List Char) : StartsWith P (s ++ t) := by
  obtain ⟨before, c, u, hbefore, hc, hP, rfl⟩ := h
  exact ⟨before, c, u ++ t, hbefore, hc, hP, by simp⟩

theorem StartsWith.exists_skip {P : Char → Prop} {s : List Char} (h : StartsWith P s) :
    ∃ c u, skip s = c :: u ∧ P c := by
  obtain ⟨before, c, u, hbefore, hc, hP, rfl⟩ := h
  exact ⟨c, u, by rw [skip_append hbefore, skip_cons hc], hP⟩

theorem StartsWith.solid_pos {P : Char → Prop} {s : List Char} (h : StartsWith P s) :
    0 < solid s := by
  obtain ⟨before, c, u, -, hc, -, rfl⟩ := h
  exact List.countP_pos_iff.2 ⟨c, by simp, by simp [hc]⟩

/-- A reader reads the texts of elements to their ends, and is not confused by their starts. -/
structure ReadsElements (element : List Char → Option (α × List Char)) (close : Char)
    (P : α → List Char → Prop) (as : List α) : Prop where
  skips : ∀ s, element (skip s) = element s
  starts : ∀ a ∈ as, ∀ s, P a s → StartsWith (· ≠ close) s
  reads : ∀ a ∈ as, ∀ s, P a s → ∀ c, c = ',' ∨ c = close → ∀ rest,
    ∃ u, element (s ++ c :: rest) = some (a, u) ∧ skip u = c :: rest

namespace ReadsElements

variable {element : List Char → Option (α × List Char)} {close : Char}
  {P : α → List Char → Prop} {a : α} {as : List α}

theorem tail (h : ReadsElements element close P (a :: as)) : ReadsElements element close P as where
  skips := h.skips
  starts b hb := h.starts b (List.mem_cons_of_mem a hb)
  reads b hb := h.reads b (List.mem_cons_of_mem a hb)

variable (h : ReadsElements element close P as)

include h

theorem sequence_eq (hclose : close ≠ ',') (hne : as ≠ []) {fuel : Nat}
    (hfuel : as.length ≤ fuel) {s : List Char} (hs : Listed P as s) (rest : List Char) :
    sequence element close fuel (s ++ close :: rest) = some (as, rest) := by
  induction as generalizing fuel s with
  | nil => exact absurd rfl hne
  | cons a as ih =>
    obtain ⟨fuel, rfl⟩ : ∃ n, fuel = n + 1 :=
      Nat.exists_eq_add_one.2 (Nat.lt_of_lt_of_le (by simp) hfuel)
    cases as with
    | nil =>
      obtain ⟨u, hread, hskip⟩ := h.reads a List.mem_cons_self s hs close (.inr rfl) rest
      rw [sequence, hread]
      dsimp only
      rw [hskip]
      dsimp only
      rw [if_neg hclose, if_pos rfl]
    | cons b as =>
      obtain ⟨first, others, hfirst, hothers, rfl⟩ := hs
      obtain ⟨u, hread, hskip⟩ := h.reads a List.mem_cons_self first hfirst ',' (.inl rfl)
        (others ++ close :: rest)
      have hrest := ih h.tail (List.cons_ne_nil b as) (Nat.le_of_succ_le_succ hfuel) hothers
      rw [List.append_assoc, List.cons_append, sequence, hread]
      dsimp only
      rw [hskip]
      dsimp only
      rw [if_pos rfl, hrest]
      rfl

theorem length_le_solid {s : List Char} (hs : Listed P as s) : as.length ≤ solid s := by
  induction as generalizing s with
  | nil => exact Nat.zero_le _
  | cons a as ih =>
    cases as with
    | nil => exact (h.starts a List.mem_cons_self s hs).solid_pos
    | cons b as =>
      obtain ⟨first, others, hfirst, hothers, rfl⟩ := hs
      have hpos := (h.starts a List.mem_cons_self first hfirst).solid_pos
      have hle := ih h.tail hothers
      have hcomma : solid (',' :: others) = solid others + 1 := List.countP_cons_of_pos rfl
      rw [solid_append, hcomma]
      simp only [List.length_cons] at hle ⊢
      omega

theorem startsWith (hne : as ≠ []) {s : List Char} (hs : Listed P as s) :
    StartsWith (· ≠ close) s := by
  cases as with
  | nil => exact absurd rfl hne
  | cons a as =>
    cases as with
    | nil => exact h.starts a List.mem_cons_self s hs
    | cons b as =>
      obtain ⟨first, others, hfirst, -, rfl⟩ := hs
      exact (h.starts a List.mem_cons_self first hfirst).append _

theorem sequence_skip (fuel : Nat) (s : List Char) :
    sequence element close fuel (skip s) = sequence element close fuel s := by
  cases fuel with
  | zero => rfl
  | succ fuel => rw [sequence, sequence, h.skips]

/-- The elements are read from the text with its leading blanks taken off. The length of that text
is fuel enough, since no element is blank. -/
theorem exists_sequence (hclose : close ≠ ',') (hne : as ≠ []) {s : List Char}
    (hs : Listed P as s) (rest : List Char) :
    ∃ c u, skip (s ++ close :: rest) = c :: u ∧ c ≠ close ∧
      sequence element close (c :: u).length (c :: u) = some (as, rest) := by
  obtain ⟨c, u, hskip, hc⟩ := ((h.startsWith hne hs).append (close :: rest)).exists_skip
  refine ⟨c, u, hskip, hc, ?_⟩
  have hfuel : as.length ≤ (c :: u).length := by
    calc as.length ≤ solid s := h.length_le_solid hs
      _ ≤ solid (s ++ close :: rest) := by
        rw [solid_append]
        exact Nat.le_add_right _ _
      _ = solid (c :: u) := by rw [← solid_skip, hskip]
      _ ≤ (c :: u).length := List.countP_le_length
  rw [← h.sequence_eq hclose hne hfuel hs rest, ← hskip, h.sequence_skip]

end ReadsElements

theorem arrayBody_listed {one : List Char → Option (Value × List Char)}
    {P : Value → List Char → Prop} {vs : List Value}
    (h : ReadsElements (fun s => one (skip s)) ']' P vs) {s : List Char} (hs : Listed P vs s)
    (rest : List Char) : arrayBody one (s ++ ']' :: rest) = some (.array vs, rest) := by
  cases vs with
  | nil =>
    have hclose : isBlank ']' = false := by decide
    rw [arrayBody, skip_append hs, skip_cons hclose]
    rfl
  | cons v vs =>
    obtain ⟨c, u, hskip, hc, hread⟩ :=
      h.exists_sequence (by decide) (List.cons_ne_nil v vs) hs rest
    rw [arrayBody, hskip]
    split
    · rename_i hcons
      cases hcons
      exact absurd rfl hc
    · rw [items_eq_sequence, hread]
      rfl

theorem objectBody_listed {one : List Char → Option (Value × List Char)}
    {P : String × Value → List Char → Prop} {ms : List (String × Value)}
    (h : ReadsElements (member one) '\x7d' P ms) {s : List Char} (hs : Listed P ms s)
    (rest : List Char) : objectBody one (s ++ '\x7d' :: rest) = some (.object ms, rest) := by
  cases ms with
  | nil =>
    have hclose : isBlank '\x7d' = false := by decide
    rw [objectBody, skip_append hs, skip_cons hclose]
    rfl
  | cons m ms =>
    obtain ⟨c, u, hskip, hc, hread⟩ :=
      h.exists_sequence (by decide) (List.cons_ne_nil m ms) hs rest
    rw [objectBody, hskip]
    split
    · rename_i hcons
      cases hcons
      exact absurd rfl hc
    · rw [members_eq_sequence, hread]
      rfl

/-! ## Texts of values -/

/-- A key and a value with a colon between them. -/
def MemberText (key : String) (P : List Char → Prop) (s : List Char) : Prop :=
  ∃ before between t, Blanks before ∧ Blanks between ∧ Padded P t ∧
    s = before ++ (quote key ++ (between ++ ':' :: t))

mutual

/-- The text has the tokens of the value in order, with any blanks between them. -/
def Value.SpelledBy : Value → List Char → Prop
  | .array vs, s => ∃ body, ItemsSpelledBy vs body ∧ s = '[' :: (body ++ [']'])
  | .object ms, s => ∃ body, MembersSpelledBy ms body ∧ s = '\x7b' :: (body ++ ['\x7d'])
  | v, s => s = v.compactChars

/-- The text has the items between commas. -/
def ItemsSpelledBy : List Value → List Char → Prop
  | [], s => Blanks s
  | [v], s => Padded v.SpelledBy s
  | v :: rest, s => ∃ first others,
      Padded v.SpelledBy first ∧ ItemsSpelledBy rest others ∧ s = first ++ ',' :: others

/-- The text has the members between commas. -/
def MembersSpelledBy : List (String × Value) → List Char → Prop
  | [], s => Blanks s
  | [(k, v)], s => MemberText k v.SpelledBy s
  | (k, v) :: rest, s => ∃ first others,
      MemberText k v.SpelledBy first ∧ MembersSpelledBy rest others ∧ s = first ++ ',' :: others

end

theorem itemsSpelledBy_iff {vs : List Value} {s : List Char} :
    ItemsSpelledBy vs s ↔ Listed (fun v => Padded v.SpelledBy) vs s := by
  induction vs generalizing s with
  | nil => exact Iff.rfl
  | cons v vs ih =>
    cases vs with
    | nil => exact Iff.rfl
    | cons w vs => simp only [ItemsSpelledBy, Listed, ih]

theorem membersSpelledBy_iff {ms : List (String × Value)} {s : List Char} :
    MembersSpelledBy ms s ↔ Listed (fun m => MemberText m.1 m.2.SpelledBy) ms s := by
  induction ms generalizing s with
  | nil => exact Iff.rfl
  | cons m ms ih =>
    cases ms with
    | nil => exact Iff.rfl
    | cons n ms => simp only [MembersSpelledBy, Listed, ih]

theorem spelledBy_array {vs : List Value} {s : List Char} :
    (Value.array vs).SpelledBy s ↔
      ∃ body, Listed (fun v => Padded v.SpelledBy) vs body ∧ s = '[' :: (body ++ [']']) := by
  simp only [Value.SpelledBy, itemsSpelledBy_iff]

theorem spelledBy_object {ms : List (String × Value)} {s : List Char} :
    (Value.object ms).SpelledBy s ↔
      ∃ body, Listed (fun m => MemberText m.1 m.2.SpelledBy) ms body ∧
        s = '\x7b' :: (body ++ ['\x7d']) := by
  simp only [Value.SpelledBy, membersSpelledBy_iff]

/-! ## Printed forms -/

theorem Blanks.nil : Blanks [] := nofun

theorem blanks_space : Blanks [' '] := by
  intro c hc
  rw [List.mem_singleton.1 hc]
  rfl

theorem blanks_newline (level : Nat) : Blanks (newline level) := by
  intro c hc
  rw [newline, List.mem_cons, List.mem_replicate] at hc
  rcases hc with rfl | ⟨-, rfl⟩ <;> decide

theorem Padded.of_text {P : List Char → Prop} {s : List Char} (h : P s) : Padded P s :=
  ⟨[], s, [], .nil, h, .nil, by simp⟩

theorem Padded.append {P : List Char → Prop} {s : List Char} (h : Padded P s)
    {after : List Char} (hafter : Blanks after) : Padded P (s ++ after) := by
  obtain ⟨before, t, after', hbefore, ht, hafter', rfl⟩ := h
  refine ⟨before, t, after' ++ after, hbefore, ht, ?_, by simp⟩
  exact fun c hc => (List.mem_append.1 hc).elim (hafter' c) (hafter c)

theorem MemberText.append {key : String} {P : List Char → Prop} {s : List Char}
    (h : MemberText key P s) {after : List Char} (hafter : Blanks after) :
    MemberText key P (s ++ after) := by
  obtain ⟨before, between, t, hbefore, hbetween, ht, rfl⟩ := h
  exact ⟨before, between, t ++ after, hbefore, hbetween, ht.append hafter, by simp⟩

/-- Blanks after the last element belong to it. -/
theorem Listed.append {P : α → List Char → Prop} {as : List α} {s after : List Char}
    (h : Listed P as s) (hafter : Blanks after) (hP : ∀ a t, P a t → P a (t ++ after)) :
    Listed P as (s ++ after) := by
  induction as generalizing s with
  | nil => exact fun c hc => (List.mem_append.1 hc).elim (h c) (hafter c)
  | cons a as ih =>
    cases as with
    | nil => exact hP a s h
    | cons b as =>
      obtain ⟨first, others, hfirst, hothers, rfl⟩ := h
      exact ⟨first, others ++ after, hfirst, ih hothers, by simp⟩

theorem spelledBy_compactChars (v : Value) : v.SpelledBy v.compactChars := by
  induction v using Value.induction with
  | null => rfl
  | bool b => cases b <;> rfl
  | number n => rfl
  | string s => rfl
  | array vs ih =>
    have hitems : Listed (fun v => Padded v.SpelledBy) vs (compactItems vs) := by
      induction vs with
      | nil => exact .nil
      | cons v vs ihRest =>
        have hv : Padded v.SpelledBy v.compactChars := .of_text (ih v List.mem_cons_self)
        cases vs with
        | nil => exact hv
        | cons w vs =>
          exact ⟨_, _, hv, ihRest fun u hu => ih u (List.mem_cons_of_mem v hu), rfl⟩
    exact spelledBy_array.2 ⟨_, hitems, rfl⟩
  | object ms ih =>
    have hmembers : Listed (fun m => MemberText m.1 m.2.SpelledBy) ms (compactMembers ms) := by
      induction ms with
      | nil => exact .nil
      | cons m ms ihRest =>
        have hm : MemberText m.1 m.2.SpelledBy (quote m.1 ++ ':' :: m.2.compactChars) :=
          ⟨[], [], _, .nil, .nil, .of_text (ih m List.mem_cons_self), rfl⟩
        cases ms with
        | nil => exact hm
        | cons n ms =>
          exact ⟨_, _, hm, ihRest fun u hu => ih u (List.mem_cons_of_mem m hu),
            by simp [compactMembers]⟩
    exact spelledBy_object.2 ⟨_, hmembers, rfl⟩

theorem spelledBy_prettyChars (v : Value) (level : Nat) : v.SpelledBy (v.prettyChars level) := by
  induction v using Value.induction generalizing level with
  | null => rfl
  | bool b => cases b <;> rfl
  | number n => rfl
  | string s => rfl
  | array vs ih =>
    have hitems : Listed (fun v => Padded v.SpelledBy) vs (prettyItems (level + 1) vs) := by
      induction vs with
      | nil => exact .nil
      | cons v vs ihRest =>
        have hv : Padded v.SpelledBy (newline (level + 1) ++ v.prettyChars (level + 1)) :=
          ⟨newline (level + 1), v.prettyChars (level + 1), [], blanks_newline _,
            ih v List.mem_cons_self _, .nil, by simp⟩
        cases vs with
        | nil => exact hv
        | cons w vs =>
          exact ⟨_, _, hv, ihRest fun u hu => ih u (List.mem_cons_of_mem v hu),
            by simp [prettyItems]⟩
    cases vs with
    | nil => exact spelledBy_array.2 ⟨[], .nil, rfl⟩
    | cons v vs =>
      exact spelledBy_array.2 ⟨_, hitems.append (blanks_newline level)
        fun _ _ h => h.append (blanks_newline level), by simp [Value.prettyChars]⟩
  | object ms ih =>
    have hmembers :
        Listed (fun m => MemberText m.1 m.2.SpelledBy) ms (prettyMembers (level + 1) ms) := by
      induction ms with
      | nil => exact .nil
      | cons m ms ihRest =>
        have hm : MemberText m.1 m.2.SpelledBy
            (newline (level + 1) ++ quote m.1 ++ ':' :: ' ' :: m.2.prettyChars (level + 1)) :=
          ⟨newline (level + 1), [], ' ' :: m.2.prettyChars (level + 1), blanks_newline _, .nil,
            ⟨[' '], m.2.prettyChars (level + 1), [], blanks_space, ih m List.mem_cons_self _,
              .nil, by simp⟩, by simp⟩
        cases ms with
        | nil => exact hm
        | cons n ms =>
          exact ⟨_, _, hm, ihRest fun u hu => ih u (List.mem_cons_of_mem m hu),
            by simp [prettyMembers]⟩
    cases ms with
    | nil => exact spelledBy_object.2 ⟨[], .nil, rfl⟩
    | cons m ms =>
      exact spelledBy_object.2 ⟨_, hmembers.append (blanks_newline level)
        fun _ _ h => h.append (blanks_newline level), by simp [Value.prettyChars]⟩

/-- The text has the tokens of the value in order, with any blanks between and around them. -/
def Value.Spells (v : Value) (text : String) : Prop := Padded v.SpelledBy text.toList

theorem Value.spells_compact (v : Value) : v.Spells v.compact := by
  rw [Spells, compact, String.toList_ofList]
  exact .of_text (spelledBy_compactChars v)

theorem Value.spells_pretty (v : Value) : v.Spells v.pretty := by
  rw [Spells, pretty, String.toList_ofList]
  exact .of_text (spelledBy_prettyChars v 0)

end Metatype.Json
