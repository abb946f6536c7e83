import Metatype.Toml.Printer

/-!
# Strings in TOML text

A string that is written is read back, in whichever of the four ways it is written, if that way can
hold it. Between escapes and the marks at the ends there is one thing to look at: quotes inside of a
string over several lines, which could be taken for its end.

* `Toml.basicBody_flatMap_writeChar`: escapes within a line.
* `Toml.basicLinesBody_writeLines`, `Toml.literalLinesBody_append`: strings over several lines.
* `Toml.anyString_write`: a string in any of the ways.
* `Toml.anyString_quote`: a string as it is written.
-/

namespace Metatype.Toml

/-! ## Escapes -/

/-- What is true of the values of a hexadecimal digit one by one. -/
theorem hexDigit?_hexLetter : ∀ n < 16, hexDigit? (hexLetter n) = some n := by decide

/-- A control character is read back from its number. -/
theorem escape_control {c : Char} (h : c.toNat < 0x20 ∨ c.toNat = 0x7f) (rest : List Char) :
    escape ('u' :: '0' :: '0' :: hexLetter (c.toNat / 16) :: hexLetter (c.toNat % 16) :: rest) =
      some (c, rest) := by
  have hvalid : c.toNat.isValidChar := c.valid
  have hhigh := hexDigit?_hexLetter (c.toNat / 16) (by omega)
  have hlow := hexDigit?_hexLetter (c.toNat % 16) (by omega)
  have hnumber : hexNumber 0 4
      ('0' :: '0' :: hexLetter (c.toNat / 16) :: hexLetter (c.toNat % 16) :: rest) =
        some (c.toNat, rest) := by
    have hzero : hexDigit? '0' = some 0 := by decide
    have hsum : c.toNat / 16 * 16 + c.toNat % 16 = c.toNat := Nat.div_add_mod' _ _
    simp only [hexNumber, hzero, hhigh, hlow, Nat.zero_mul, Nat.zero_add, hsum]
  have hu : letterEscape? 'u' = none := by decide
  rw [escape, hu]
  dsimp only
  rw [if_pos rfl, hexEscape, hnumber]
  simp [scalar?, hvalid]

/-- A character inside a string is written as an escape that is read back, or as itself, in which
case it is neither a double quote nor a backslash nor a control character. -/
theorem writeChar_cases (c : Char) :
    (∃ code, writeChar c = '\\' :: code ∧ ∀ rest, escape (code ++ rest) = some (c, rest) ∧
      lineContinuation? (code ++ rest) = none) ∨
    (writeChar c = [c] ∧ c ≠ '"' ∧ c ≠ '\\' ∧ isControl c = false) := by
  unfold writeChar
  split
  · exact .inl ⟨['"'], rfl, fun _ => ⟨rfl, rfl⟩⟩
  · exact .inl ⟨['\\'], rfl, fun _ => ⟨rfl, rfl⟩⟩
  · exact .inl ⟨['b'], rfl, fun _ => ⟨rfl, rfl⟩⟩
  · exact .inl ⟨['t'], rfl, fun _ => ⟨rfl, rfl⟩⟩
  · exact .inl ⟨['n'], rfl, fun _ => ⟨rfl, rfl⟩⟩
  · exact .inl ⟨['f'], rfl, fun _ => ⟨rfl, rfl⟩⟩
  · exact .inl ⟨['r'], rfl, fun _ => ⟨rfl, rfl⟩⟩
  rename_i hquote hbackslash _ _ _ _ _
  split
  · rename_i hcontrol
    exact .inl ⟨_, rfl, fun rest => ⟨escape_control hcontrol rest, rfl⟩⟩
  · rename_i hplain
    refine .inr ⟨rfl, hquote, hbackslash, ?_⟩
    rw [not_or] at hplain
    simp [isControl, hplain]

/-! ## Strings within a line -/

/-- A character before what has been read. -/
def consRead (c : Char) (found : Option (List Char × List Char)) :
    Option (List Char × List Char) := found.map fun f => (c :: f.1, f.2)

theorem basicBody_escape {rest after : List Char} {c : Char} (h : escape rest = some (c, after)) :
    basicBody ('\\' :: rest) = consRead c (basicBody after) := by
  rw [basicBody]
  split
  · rename_i hread
    cases h.symm.trans hread
  · rename_i hread
    cases h.symm.trans hread
    rfl

theorem basicBody_plain {c : Char} (hquote : c ≠ '"') (hbackslash : c ≠ '\\')
    (hcontrol : isControl c = false) (rest : List Char) :
    basicBody (c :: rest) = consRead c (basicBody rest) := by
  rw [basicBody]
  · rw [if_neg (by simp [hcontrol])]
    rfl
  · exact hquote
  · exact hbackslash

theorem basicBody_flatMap_writeChar (s rest : List Char) :
    basicBody (s.flatMap writeChar ++ '"' :: rest) = some (s, rest) := by
  induction s with
  | nil => rw [List.flatMap_nil, List.nil_append, basicBody]
  | cons c s ih =>
    rw [List.flatMap_cons, List.append_assoc]
    rcases writeChar_cases c with ⟨code, hcode, hread⟩ | ⟨hsame, hquote, hbackslash, hcontrol⟩
    · rw [hcode, List.cons_append, basicBody_escape (hread _).1, ih]
      rfl
    · rw [hsame, List.singleton_append, basicBody_plain hquote hbackslash hcontrol, ih]
      rfl

theorem literalBody_append {s : List Char} (hquote : '\'' ∉ s)
    (hcontrol : ∀ c ∈ s, isControl c = false) (rest : List Char) :
    literalBody (s ++ '\'' :: rest) = some (s, rest) := by
  induction s with
  | nil => rfl
  | cons c s ih =>
    rw [List.mem_cons, not_or] at hquote
    rw [List.forall_mem_cons] at hcontrol
    rw [List.cons_append, literalBody, if_neg (by simp [hcontrol.1]), ih hquote.2 hcontrol.2]
    · rfl
    · exact Ne.symm hquote.1

/-! ## Strings over several lines -/

theorem basicLinesBody_escape {rest after : List Char} {c : Char}
    (h : escape rest = some (c, after)) (hline : lineContinuation? rest = none) :
    basicLinesBody ('\\' :: rest) = consRead c (basicLinesBody after) := by
  rw [basicLinesBody]
  split
  · rename_i hcont
    cases hline.symm.trans hcont
  · split
    · rename_i hread
      cases h.symm.trans hread
    · rename_i hread
      cases h.symm.trans hread
      rfl

theorem basicLinesBody_plain {c : Char} (hquote : c ≠ '"') (hbackslash : c ≠ '\\')
    (hcontrol : isControl c = true → c = '\n') (rest : List Char) :
    basicLinesBody (c :: rest) = consRead c (basicLinesBody rest) := by
  rw [basicLinesBody]
  · rw [if_neg (by simpa using hcontrol)]
    rfl
  · exact fun _ h _ => hquote h
  · exact fun _ h _ => hquote h
  · exact fun _ h _ => hquote h
  · exact hbackslash

/-- A quote before which there is no end of the string. -/
theorem basicLinesBody_quote {rest : List Char} (h : ∀ after, rest ≠ '"' :: '"' :: after) :
    basicLinesBody ('"' :: rest) = consRead '"' (basicLinesBody rest) := by
  rw [basicLinesBody]
  · rfl
  · exact fun after _ hrest => h _ hrest
  · exact fun after _ hrest => h _ hrest
  · exact fun after _ hrest => h _ hrest
  · decide

/-- Up to two quotes before the end belong to the string, if no quote follows. -/
theorem basicLinesBody_end {count : Nat} (hcount : count ≤ 2) {rest : List Char}
    (h : rest.head? ≠ some '"') :
    basicLinesBody (List.replicate count '"' ++ '"' :: '"' :: '"' :: rest) =
      some (List.replicate count '"', rest) := by
  have hne : ∀ after, rest ≠ '"' :: after := by
    rintro after rfl
    exact h rfl
  match count, hcount with
  | 0, _ =>
    rw [List.replicate_zero, List.nil_append, basicLinesBody]
    · exact fun _ hrest => hne _ hrest
    · exact fun _ hrest => hne _ hrest
  | 1, _ =>
    show basicLinesBody ('"' :: '"' :: '"' :: '"' :: rest) = _
    rw [basicLinesBody]
    · rfl
    · exact fun _ hrest => hne _ hrest
  | 2, _ =>
    show basicLinesBody ('"' :: '"' :: '"' :: '"' :: '"' :: rest) = _
    rw [basicLinesBody]
    rfl

/-- Where a quote does not count as one of two, something else is written first. -/
theorem exists_head_writeLines {quotes : Nat} {c : Char} (h : c = '"' → 2 ≤ quotes)
    (s : List Char) : ∃ d after, writeLines quotes (c :: s) = d :: after ∧ d ≠ '"' := by
  rw [writeLines]
  by_cases hquote : c = '"'
  · rw [if_pos hquote, if_neg (by have := h hquote; omega)]
    exact ⟨_, _, rfl, by decide⟩
  · rw [if_neg hquote]
    by_cases hline : c = '\n'
    · rw [if_pos hline]
      exact ⟨_, _, rfl, by decide⟩
    · rw [if_neg hline]
      rcases writeChar_cases c with ⟨code, hcode, -⟩ | ⟨hsame, -⟩
      · rw [hcode]
        exact ⟨_, _, rfl, by decide⟩
      · rw [hsame]
        exact ⟨_, _, rfl, hquote⟩

/-- After a quote there are no two more, but for those at the end of the text. -/
theorem writeLines_ne {quotes : Nat} (hquotes : 1 ≤ quotes) {s : List Char} (hs : s ≠ [])
    (hlast : s = ['"'] → 2 ≤ quotes) (rest after : List Char) :
    writeLines quotes s ++ rest ≠ '"' :: '"' :: after := by
  intro h
  match s with
  | [] => exact hs rfl
  | c :: s =>
    by_cases hc : c = '"' → 2 ≤ quotes
    · obtain ⟨d, written, hwritten, hd⟩ := exists_head_writeLines hc s
      rw [hwritten] at h
      exact hd (List.cons.inj h).1
    · obtain ⟨rfl, hlt⟩ := Classical.not_imp.1 hc
      rw [writeLines, if_pos rfl, if_pos (by omega)] at h
      match s with
      | [] => exact hlt (hlast rfl)
      | c :: s =>
        obtain ⟨d, written, hwritten, hd⟩ :=
          exists_head_writeLines (c := c) (fun _ => by omega : _ → 2 ≤ quotes + 1) s
        rw [hwritten] at h
        exact hd (List.cons.inj (List.cons.inj h).2).1

theorem basicLinesBody_writeLines (s : List Char) (quotes : Nat) {rest : List Char}
    (h : rest.head? ≠ some '"') :
    basicLinesBody (writeLines quotes s ++ '"' :: '"' :: '"' :: rest) = some (s, rest) := by
  induction s generalizing quotes with
  | nil => exact basicLinesBody_end (Nat.zero_le 2) h
  | cons c s ih =>
    rw [writeLines]
    by_cases hquote : c = '"'
    · subst hquote
      rw [if_pos rfl]
      by_cases hraw : quotes < 2
      · rw [if_pos hraw, List.cons_append]
        -- the last one or two quotes are read together with those of the end
        by_cases hone : s = []
        · subst hone
          exact basicLinesBody_end (by decide : 1 ≤ 2) h
        by_cases htwo : s = ['"'] ∧ quotes = 0
        · obtain ⟨rfl, rfl⟩ := htwo
          exact basicLinesBody_end (by decide : 2 ≤ 2) h
        have hlast : s = ['"'] → 2 ≤ quotes + 1 := fun hs => by
          have := not_and.1 htwo hs
          omega
        rw [basicLinesBody_quote (writeLines_ne (by omega) hone hlast _), ih]
        rfl
      · have hread : escape ('"' :: (writeLines 0 s ++ '"' :: '"' :: '"' :: rest)) =
            some ('"', writeLines 0 s ++ '"' :: '"' :: '"' :: rest) := rfl
        rw [if_neg hraw, List.cons_append, List.cons_append, basicLinesBody_escape hread rfl, ih]
        rfl
    · rw [if_neg hquote]
      by_cases hline : c = '\n'
      · rw [if_pos hline, hline, List.cons_append,
          basicLinesBody_plain (by decide) (by decide) (fun _ => rfl), ih]
        rfl
      · rw [if_neg hline, List.append_assoc]
        rcases writeChar_cases c with ⟨code, hcode, hread⟩ | ⟨hsame, -, hbackslash, hcontrol⟩
        · rw [hcode, List.cons_append, basicLinesBody_escape (hread _).1 (hread _).2, ih]
          rfl
        · rw [hsame, List.singleton_append,
            basicLinesBody_plain hquote hbackslash (by simp [hcontrol]), ih]
          rfl

theorem literalLinesBody_plain {c : Char} (hquote : c ≠ '\'')
    (hcontrol : isControl c = true → c = '\n') (rest : List Char) :
    literalLinesBody (c :: rest) = consRead c (literalLinesBody rest) := by
  rw [literalLinesBody]
  · rw [if_neg (by simpa using hcontrol)]
    rfl
  · exact fun _ h _ => hquote h
  · exact fun _ h _ => hquote h
  · exact fun _ h _ => hquote h

theorem literalLinesBody_quote {rest : List Char} (h : ∀ after, rest ≠ '\'' :: '\'' :: after) :
    literalLinesBody ('\'' :: rest) = consRead '\'' (literalLinesBody rest) := by
  rw [literalLinesBody]
  · rfl
  · exact fun after _ hrest => h _ hrest
  · exact fun after _ hrest => h _ hrest
  · exact fun after _ hrest => h _ hrest

theorem literalLinesBody_end {count : Nat} (hcount : count ≤ 2) {rest : List Char}
    (h : rest.head? ≠ some '\'') :
    literalLinesBody (List.replicate count '\'' ++ '\'' :: '\'' :: '\'' :: rest) =
      some (List.replicate count '\'', rest) := by
  have hne : ∀ after, rest ≠ '\'' :: after := by
    rintro after rfl
    exact h rfl
  match count, hcount with
  | 0, _ =>
    rw [List.replicate_zero, List.nil_append, literalLinesBody]
    · exact fun _ hrest => hne _ hrest
    · exact fun _ hrest => hne _ hrest
  | 1, _ =>
    show literalLinesBody ('\'' :: '\'' :: '\'' :: '\'' :: rest) = _
    rw [literalLinesBody]
    · rfl
    · exact fun _ hrest => hne _ hrest
  | 2, _ => rfl

theorem hasThree_of_cons {quote c : Char} {s : List Char}
    (h : Quoting.hasThree quote (c :: s) = false) : Quoting.hasThree quote s = false := by
  match s with
  | [] => rfl
  | [_] => rfl
  | a :: b :: rest =>
    rw [Quoting.hasThree, Bool.or_eq_false_iff] at h
    exact h.2

theorem literalLinesBody_append {s : List Char} (hthree : Quoting.hasThree '\'' s = false)
    (hcontrol : ∀ c ∈ s, isControl c = true → c = '\n') {rest : List Char}
    (h : rest.head? ≠ some '\'') :
    literalLinesBody (s ++ '\'' :: '\'' :: '\'' :: rest) = some (s, rest) := by
  induction s with
  | nil => exact literalLinesBody_end (Nat.zero_le 2) h
  | cons c s ih =>
    rw [List.forall_mem_cons] at hcontrol
    have ih := ih (hasThree_of_cons hthree) hcontrol.2
    by_cases hquote : c = '\''
    · subst hquote
      by_cases hone : s = []
      · subst hone
        exact literalLinesBody_end (by decide : 1 ≤ 2) h
      by_cases htwo : s = ['\'']
      · subst htwo
        exact literalLinesBody_end (by decide : 2 ≤ 2) h
      have hne : ∀ after, s ++ '\'' :: '\'' :: '\'' :: rest ≠ '\'' :: '\'' :: after := by
        intro after heq
        match s with
        | [] => exact hone rfl
        | [a] => exact htwo (congrArg (fun a => [a]) (List.cons.inj heq).1)
        | a :: b :: s =>
          obtain ⟨ha, heq⟩ := List.cons.inj heq
          obtain ⟨hb, -⟩ := List.cons.inj heq
          simp [Quoting.hasThree, ha, hb] at hthree
      rw [List.cons_append, literalLinesBody_quote hne, ih]
      rfl
    · rw [List.cons_append, literalLinesBody_plain hquote hcontrol.1, ih]
      rfl

/-! ## Any way of writing -/

/-- A text that can be written in a way: without escapes there are no control characters but line
ends, and no quotes that could be taken for the end. -/
def Quoting.Holds : Quoting → List Char → Prop
  | .basic, _ => True
  | .literal, s => '\'' ∉ s ∧ ∀ c ∈ s, isControl c = false
  | .basicLines, _ => True
  | .literalLines, s => hasThree '\'' s = false ∧ ∀ c ∈ s, isControl c = true → c = '\n'

/-- The text does not go on with a quote. -/
def EndsString (rest : List Char) : Prop := rest.head? ≠ some '"' ∧ rest.head? ≠ some '\''

theorem endsString_cons {c : Char} (hdouble : c ≠ '"') (hsingle : c ≠ '\'') (rest : List Char) :
    EndsString (c :: rest) := ⟨by simpa using hdouble, by simpa using hsingle⟩

theorem anyString_basic {rest : List Char} (h : ∀ after, rest ≠ '"' :: '"' :: after) :
    anyString ('"' :: rest) = asText (basicBody rest) := by
  rw [anyString]
  · rfl
  · exact fun after hrest => h after (List.cons.inj hrest).2
  · nofun

theorem anyString_literal {rest : List Char} (h : ∀ after, rest ≠ '\'' :: '\'' :: after) :
    anyString ('\'' :: rest) = asText (literalBody rest) := by
  rw [anyString]
  · rfl
  · nofun
  · exact fun after hrest => h after (List.cons.inj hrest).2

/-- The line end that is put before a text with line ends is left out when it is read. -/
theorem skipLineEnd_start {s written : List Char}
    (h : s.contains '\n' = false → written.head? ≠ some '\n') :
    skipLineEnd ((if s.contains '\n' then ['\n'] else []) ++ written) = written := by
  cases hline : s.contains '\n' with
  | true => rfl
  | false =>
    have hhead := h hline
    rw [if_neg Bool.false_ne_true, List.nil_append]
    match written with
    | [] => rfl
    | c :: written =>
      rw [skipLineEnd]
      rintro after heq
      cases heq
      exact hhead rfl

theorem head?_writeLines {s : List Char} (h : s.contains '\n' = false) (rest : List Char) :
    (writeLines 0 s ++ '"' :: rest).head? ≠ some '\n' := by
  match s with
  | [] => exact nofun
  | c :: s =>
    have hline : c ≠ '\n' := by
      rintro rfl
      simp at h
    rw [writeLines]
    by_cases hquote : c = '"'
    · rw [if_pos hquote, if_pos (by decide)]
      exact nofun
    · rw [if_neg hquote, if_neg hline]
      rcases writeChar_cases c with ⟨code, hcode, -⟩ | ⟨hsame, -⟩
      · rw [hcode]
        exact nofun
      · rw [hsame]
        exact fun hhead => hline (Option.some.inj hhead)

/-- A text that is written in a way that can hold it is read back. -/
theorem anyString_write {q : Quoting} {s : List Char} (hs : q.Holds s) {rest : List Char}
    (h : EndsString rest) : anyString (q.write s ++ rest) = some (String.ofList s, rest) := by
  obtain ⟨hdouble, hsingle⟩ := h
  cases q with
  | basic =>
    have htext : Quoting.basic.write s ++ rest =
        '"' :: (s.flatMap writeChar ++ '"' :: rest) := by
      simp [Quoting.write, Quoting.mark, Quoting.body]
    have hne : ∀ after, s.flatMap writeChar ++ '"' :: rest ≠ '"' :: '"' :: after := by
      intro after heq
      match s with
      | [] => exact hdouble (congrArg List.head? (List.cons.inj heq).2)
      | c :: s =>
        rw [List.flatMap_cons, List.append_assoc] at heq
        rcases writeChar_cases c with ⟨code, hcode, -⟩ | ⟨hsame, hquote, -⟩
        · rw [hcode] at heq
          cases (List.cons.inj heq).1
        · rw [hsame] at heq
          exact hquote (List.cons.inj heq).1
    rw [htext, anyString_basic hne, basicBody_flatMap_writeChar]
    rfl
  | literal =>
    have htext : Quoting.literal.write s ++ rest = '\'' :: (s ++ '\'' :: rest) := by
      simp [Quoting.write, Quoting.mark, Quoting.body]
    have hne : ∀ after, s ++ '\'' :: rest ≠ '\'' :: '\'' :: after := by
      intro after heq
      match s with
      | [] => exact hsingle (congrArg List.head? (List.cons.inj heq).2)
      | c :: s =>
        rw [Quoting.Holds, List.mem_cons, not_or] at hs
        exact hs.1.1 (List.cons.inj heq).1.symm
    rw [htext, anyString_literal hne, literalBody_append hs.1 hs.2]
    rfl
  | basicLines =>
    have htext : Quoting.basicLines.write s ++ rest = '"' :: '"' :: '"' ::
        ((if s.contains '\n' then ['\n'] else []) ++
          (writeLines 0 s ++ '"' :: '"' :: '"' :: rest)) := by
      simp [Quoting.write, Quoting.mark, Quoting.body]
    rw [htext, anyString, skipLineEnd_start (head?_writeLines · _),
      basicLinesBody_writeLines s 0 hdouble]
    rfl
  | literalLines =>
    have htext : Quoting.literalLines.write s ++ rest = '\'' :: '\'' :: '\'' ::
        ((if s.contains '\n' then ['\n'] else []) ++
          (s ++ '\'' :: '\'' :: '\'' :: rest)) := by
      simp [Quoting.write, Quoting.mark, Quoting.body]
    have hhead : s.contains '\n' = false →
        (s ++ '\'' :: '\'' :: '\'' :: rest).head? ≠ some '\n' := by
      intro hline
      match s with
      | [] => exact nofun
      | c :: s =>
        rw [List.cons_append, List.head?_cons, Ne, Option.some.injEq]
        rintro rfl
        simp at hline
    rw [htext, anyString, skipLineEnd_start hhead, literalLinesBody_append hs.1 hs.2 hsingle]
    rfl

/-! ## The way that is taken -/

theorem isControl_of_not_needsEscapes {s : List Char} (h : Quoting.needsEscapes s = false) :
    ∀ c ∈ s, isControl c = true → c = '\n' := by
  intro c hc hcontrol
  have hplain := List.any_eq_false.1 h c hc
  simpa [hcontrol] using hplain

/-- The way that is taken for a text can hold it. -/
theorem holds_best (s : List Char) : (Quoting.best s).Holds s := by
  unfold Quoting.best
  dsimp only
  split
  · trivial
  split
  · rename_i h
    simp only [Bool.and_eq_true, Bool.not_eq_true', List.contains_eq_mem, decide_eq_false_iff_not]
      at h
    obtain ⟨⟨hplain, hline⟩, hquote⟩ := h
    refine ⟨hquote, fun c hc => ?_⟩
    rw [← Bool.not_eq_true]
    intro hcontrol
    rw [isControl_of_not_needsEscapes hplain c hc hcontrol] at hc
    exact hline hc
  split
  · trivial
  split
  · rename_i h
    simp only [Bool.and_eq_true, Bool.not_eq_true'] at h
    exact ⟨h.2, isControl_of_not_needsEscapes h.1⟩
  split
  · trivial
  · trivial

/-- Every string is read back as it is written. -/
theorem anyString_quote (s : String) {rest : List Char} (h : EndsString rest) :
    anyString (quote s ++ rest) = some (s, rest) := by
  rw [quote, anyString_write (holds_best s.toList) h, String.ofList_toList]

/-! ## Line ends -/

theorem hexLetter_ne : ∀ n < 16, hexLetter n ≠ '\r' := by decide

/-- Carriage returns are only written as escapes. -/
theorem return_not_mem_writeChar (c : Char) : '\r' ∉ writeChar c := by
  unfold writeChar
  split
  · decide
  · decide
  · decide
  · decide
  · decide
  · decide
  · decide
  rename_i hreturn
  split
  · have hhigh := hexLetter_ne (c.toNat / 16) (by omega)
    have hlow := hexLetter_ne (c.toNat % 16) (by omega)
    simp [hhigh.symm, hlow.symm]
  · exact fun hmem => hreturn (List.mem_singleton.1 hmem).symm

theorem return_not_mem_writeLines (quotes : Nat) (s : List Char) : '\r' ∉ writeLines quotes s := by
  induction s generalizing quotes with
  | nil => exact nofun
  | cons c s ih =>
    rw [writeLines]
    split
    · split
      · simp [ih]
      · simp [ih]
    split
    · simp [ih]
    · simp [ih, return_not_mem_writeChar]

theorem return_not_mem_write {q : Quoting} {s : List Char} (hs : q.Holds s) : '\r' ∉ q.write s := by
  have hmark : '\r' ∉ q.mark := by cases q <;> decide
  have hbody : '\r' ∉ q.body s := by
    have hstart : '\r' ∉ if s.contains '\n' then ['\n'] else [] := by split <;> decide
    cases q with
    | basic =>
      intro hmem
      obtain ⟨c, -, hc⟩ := List.mem_flatMap.1 hmem
      exact return_not_mem_writeChar c hc
    | literal => exact fun hmem => Bool.false_ne_true ((hs.2 _ hmem).symm.trans (by decide))
    | basicLines => exact List.not_mem_append hstart (return_not_mem_writeLines 0 s)
    | literalLines =>
      have htext : '\r' ∉ s := fun hmem => absurd (hs.2 _ hmem (by decide)) (by decide)
      exact List.not_mem_append hstart htext
  exact List.not_mem_append (List.not_mem_append hmark hbody) hmark

theorem return_not_mem_quote (s : String) : '\r' ∉ quote s :=
  return_not_mem_write (holds_best s.toList)

end Metatype.Toml
