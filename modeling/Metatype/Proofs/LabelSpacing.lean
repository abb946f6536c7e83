import Metatype.Proofs.LabelText

/-!
# The spaces in labels

A space is due at a separator and before a capital that starts a word, and it is written only behind
a word. So the label of an identifier without blanks has one space between two words and none at its
start, however separators and capitals are arranged. The space of a separator is written before it
is known whether a word follows. Where none does, it is left at the end of the label.

* `Label.isWord_lower`, `Label.isWord_upper`: no case mapping gives a blank or a separator.
* `Label.spaced_words`: the spaces in the words of a text, and whether a word goes on at its end.
* `label_spaced`: the spaces in a label, and the identifiers whose label ends with one.
-/

namespace Metatype

open Text (forall_ascii isBlank isUpper lower upper)

namespace Label

/-! ## Characters of words -/

/-- Whether a character can stand in a word. -/
def isWordChar (c : Char) : Bool := !isBlank c && !isSeparator c

/-- A text that is not empty and has only characters of words. -/
def IsWord (s : List Char) : Prop := s ≠ [] ∧ ∀ c ∈ s, isWordChar c = true

/-- The code points of blanks and separators, in ranges. -/
def marks : List (Nat × Nat) :=
  [(9, 13), (0x20, 0x20), (0x24, 0x24), (0x2d, 0x2e), (0x5f, 0x5f), (0x85, 0x85), (0xa0, 0xa0),
    (0x1680, 0x1680), (0x2000, 0x200a), (0x2028, 0x2029), (0x202f, 0x202f), (0x205f, 0x205f),
    (0x3000, 0x3000)]

/-- No code point from `first` to `last` is that of a blank or a separator. -/
def AvoidsMarks (first last : Int) : Prop := ∀ m ∈ marks, last < m.1 ∨ m.2 < first

instance (first last : Int) : Decidable (AvoidsMarks first last) :=
  inferInstanceAs (Decidable (∀ m ∈ marks, last < (m.1 : Int) ∨ (m.2 : Int) < first))

theorem AvoidsMarks.mono {first last first' last' : Int} (h : AvoidsMarks first last)
    (hfirst : first ≤ first') (hlast : last' ≤ last) : AvoidsMarks first' last' := by
  intro m hm
  rcases h m hm with hbefore | hbehind
  · exact .inl (by omega)
  · exact .inr (by omega)

theorem isSeparator_iff {c : Char} : isSeparator c = true ↔ c ∈ ['_', '$', '-', '.'] := by
  simp [isSeparator, or_assoc]

theorem isWordChar_iff {c : Char} :
    isWordChar c = true ↔ isBlank c = false ∧ isSeparator c = false := by
  simp [isWordChar]

theorem isWordChar_of_avoidsMarks {c : Char} (h : AvoidsMarks c.toNat c.toNat) :
    isWordChar c = true := by
  have hblank : ¬isBlank c = true := by
    simp only [AvoidsMarks, marks, List.forall_mem_cons] at h
    simp only [isBlank, Bool.or_eq_true, Bool.and_eq_true, decide_eq_true_eq, beq_iff_eq]
    omega
  have hseparator : ¬isSeparator c = true := by
    simp only [isSeparator_iff, List.mem_cons, List.not_mem_nil, or_false]
    rintro (rfl | rfl | rfl | rfl) <;> exact absurd h (by decide)
  exact isWordChar_iff.2 ⟨eq_false_of_ne_true hblank, eq_false_of_ne_true hseparator⟩

theorem isWordChar_ofNat {n : Nat} (h : AvoidsMarks n n) : isWordChar (Char.ofNat n) = true := by
  by_cases hn : n.isValidChar
  · rw [Char.ofNat, dif_pos hn]
    exact isWordChar_of_avoidsMarks h
  · rw [Char.ofNat, dif_neg hn]
    decide

theorem isWord_singleton {c : Char} (h : isWordChar c = true) : IsWord [c] :=
  ⟨List.cons_ne_nil c [], List.forall_mem_singleton.2 h⟩

/-! ## Words in another case -/

/-- A case mapping takes a character of words to a word if its tables do. -/
theorem isWord_mapCase {sequences : List (Nat × List Nat)} {runs : List Text.ShiftRun}
    (hsequences : ∀ p ∈ sequences, p.2 ≠ [] ∧ ∀ n ∈ p.2, AvoidsMarks n n)
    (hruns : ∀ r ∈ runs, AvoidsMarks (r.first + r.offset) (r.last + r.offset)) {c : Char}
    (hc : isWordChar c = true) : IsWord (Text.mapCase sequences runs c) := by
  apply Text.mapCase_cases
  · intro p hp
    obtain ⟨hne, himage⟩ := hsequences p hp
    refine ⟨mt List.map_eq_nil_iff.1 hne, List.forall_mem_map.2 fun n hn => ?_⟩
    exact isWordChar_ofNat (himage n hn)
  · intro r hr n hfirst hlast
    refine isWord_singleton ?_
    rcases Int.le_total 0 (n + r.offset) with hnonneg | hneg
    · exact isWordChar_ofNat ((hruns r hr).mono (by omega) (by omega))
    · rw [Int.toNat_of_nonpos hneg]
      decide
  · exact isWord_singleton hc

theorem isWordChar_toLower_toUpper : ∀ c : Char, c.toNat < 128 → isWordChar c = true →
    isWordChar c.toLower = true ∧ isWordChar c.toUpper = true := forall_ascii (by decide)

theorem isWord_lower {c : Char} (h : isWordChar c = true) : IsWord (lower c) := by
  by_cases hc : c.toNat < 128
  · rw [Text.lower_ascii hc]
    exact isWord_singleton (isWordChar_toLower_toUpper c hc h).1
  · rw [lower, if_neg hc]
    exact isWord_mapCase (by decide +kernel) (by decide +kernel) h

theorem isWord_upper {c : Char} (h : isWordChar c = true) : IsWord (upper c) := by
  by_cases hc : c.toNat < 128
  · rw [Text.upper_ascii hc]
    exact isWord_singleton (isWordChar_toLower_toUpper c hc h).2
  · rw [upper, if_neg hc]
    exact isWord_mapCase (by decide +kernel) (by decide +kernel) h

/-! ## Text with spaces behind words -/

/-- Text in which a space stands only behind a word. `before` tells whether there is a word that the
text goes on with, `after` whether there is one at its end. -/
inductive Spaced : (before after : Bool) → List Char → Prop
  | nil {before : Bool} : Spaced before before []
  | char {before after : Bool} {c : Char} {s : List Char} :
      isWordChar c = true → Spaced true after s → Spaced before after (c :: s)
  | space {after : Bool} {s : List Char} : Spaced false after s → Spaced true after (' ' :: s)

/-- Whether the last character of a text has a property. For the empty text it is `start`. -/
def lastHolds (p : Char → Bool) (start : Bool) (s : List Char) : Bool :=
  (s.getLast?.map p).getD start

theorem lastHolds_cons (p : Char → Bool) (start : Bool) (c : Char) (s : List Char) :
    lastHolds p start (c :: s) = lastHolds p (p c) s := by
  rw [lastHolds, lastHolds, List.getLast?_cons]
  cases s.getLast? <;> rfl

namespace Spaced

variable {before after : Bool} {s : List Char}

theorem gap (h : Spaced false after s) : Spaced before after (gap before ++ s) := by
  cases before with
  | true => exact space h
  | false => exact h

theorem word {w : List Char} (hw : IsWord w) (h : Spaced true after s) :
    Spaced before after (w ++ s) := by
  obtain ⟨hne, hchars⟩ := hw
  induction w generalizing before with
  | nil => exact absurd rfl hne
  | cons c w ih =>
    obtain ⟨hc, hw⟩ := List.forall_mem_cons.1 hchars
    refine char hc ?_
    cases w with
    | nil => exact h
    | cons d w => exact ih (List.cons_ne_nil d w) hw

theorem isWordChar_or_space (h : Spaced before after s) :
    ∀ c ∈ s, isWordChar c = true ∨ c = ' ' := by
  induction h with
  | nil => exact nofun
  | char hc _ ih => exact List.forall_mem_cons.2 ⟨.inl hc, ih⟩
  | space _ ih => exact List.forall_mem_cons.2 ⟨.inr rfl, ih⟩

theorem head?_ne_space (h : Spaced false after s) : s.head? ≠ some ' ' := by
  cases h with
  | nil => exact nofun
  | char hc _ =>
    intro hhead
    cases hhead
    cases hc

theorem not_infix_spaces (h : Spaced before after s) : ¬[' ', ' '] <:+: s := by
  induction h with
  | nil => exact fun h => nomatch List.infix_nil.1 h
  | char hc _ ih =>
    rw [List.infix_cons_iff, List.cons_prefix_cons]
    rintro (⟨rfl, -⟩ | hrest)
    · cases hc
    · exact ih hrest
  | space hs ih =>
    rw [List.infix_cons_iff, List.cons_prefix_cons]
    rintro (⟨-, rest, rfl⟩ | hrest)
    · exact hs.head?_ne_space rfl
    · exact ih hrest

/-- There is a word at the end unless the last character is a space. -/
theorem after_eq (h : Spaced before after s) : after = lastHolds (· != ' ') before s := by
  induction h with
  | nil => rfl
  | @char before after c s hc _ ih =>
    have hspace : (c != ' ') = true := by
      refine bne_iff_ne.2 fun h => ?_
      rw [h] at hc
      cases hc
    rw [lastHolds_cons, hspace]
    exact ih
  | space _ ih =>
    rw [lastHolds_cons]
    exact ih

theorem getLast?_eq_space_iff (h : Spaced before after s) (hne : s ≠ []) :
    s.getLast? = some ' ' ↔ after = false := by
  rw [h.after_eq, lastHolds, List.getLast?_eq_some_getLast hne]
  simp

theorem capitalized (h : Spaced false after s) : Spaced false after (capitalize s) := by
  cases h with
  | nil => exact nil
  | char hc hs => exact word (isWord_upper hc) hs

theorem capitalize_ne_nil (h : Spaced false after s) (hne : s ≠ []) : capitalize s ≠ [] := by
  cases h with
  | nil => exact absurd rfl hne
  | char hc _ => exact List.append_ne_nil_of_left_ne_nil (isWord_upper hc).1 _

end Spaced

/-! ## Words of a text without blanks -/

theorem insideAfter_of_isWord {w : List Char} (h : IsWord w) (inside : Bool) :
    insideAfter inside w = true := by
  obtain ⟨hne, hchars⟩ := h
  have hlast := (isWordChar_iff.1 (hchars _ (List.getLast_mem hne))).1
  rw [insideAfter, List.getLast?_eq_some_getLast hne]
  simp [hlast]

/-- A character that separates no words is written as part of a word. There may be a space before
it, as far as one is due. -/
theorem exists_words_char {c : Char} (hc : isWordChar c = true) (inside inRun : Bool)
    (rest : List Char) : ∃ new running, IsWord new ∧
      (words inside inRun (c :: rest) = new ++ words true running rest ∨
        words inside inRun (c :: rest) = gap inside ++ (new ++ words true running rest)) := by
  obtain ⟨hblank, hseparator⟩ := isWordChar_iff.1 hc
  have hself := isWord_singleton hc
  cases hupper : isUpper c with
  | false =>
    refine ⟨[c], false, hself, .inl ?_⟩
    rw [words_plain hseparator hupper, hblank]
    rfl
  | true =>
    cases inRun with
    | true =>
      refine ⟨[c], true, hself, .inl ?_⟩
      rw [words, if_neg (by simp [hseparator]), if_pos hupper, if_pos rfl, hblank]
      rfl
    | false =>
      have hnew : IsWord (if startsUpper rest then [c] else lower c) := by
        split
        · exact hself
        · exact isWord_lower hc
      refine ⟨_, true, hnew, .inr ?_⟩
      rw [words, if_neg (by simp [hseparator]), if_pos hupper, if_neg (by simp)]
      dsimp only
      rw [insideAfter_of_isWord hnew, List.append_assoc]

/-- Spaces are written only behind words, and a word goes on at the end unless the text ends with a
separator. -/
theorem spaced_words {s : List Char} (hs : ∀ c ∈ s, isBlank c = false) (inside inRun : Bool) :
    Spaced inside (lastHolds (!isSeparator ·) inside s) (words inside inRun s) := by
  induction s generalizing inside inRun with
  | nil => exact .nil
  | cons c rest ih =>
    obtain ⟨hblank, hrest⟩ := List.forall_mem_cons.1 hs
    rw [lastHolds_cons]
    cases hseparator : isSeparator c with
    | true =>
      rw [words_separator hseparator]
      exact (ih hrest false false).gap
    | false =>
      have hc := isWordChar_iff.2 ⟨hblank, hseparator⟩
      obtain ⟨new, running, hnew, hwords | hwords⟩ := exists_words_char hc inside inRun rest
      · rw [hwords]
        exact .word hnew (ih hrest true running)
      · rw [hwords]
        exact .gap (.word hnew (ih hrest true running))

/-- Nothing is written for separators alone. -/
theorem words_ne_nil_iff {s : List Char} (hs : ∀ c ∈ s, isBlank c = false) (inRun : Bool) :
    words false inRun s ≠ [] ↔ ∃ c ∈ s, isSeparator c = false := by
  induction s generalizing inRun with
  | nil => simp [words]
  | cons c rest ih =>
    obtain ⟨hblank, hrest⟩ := List.forall_mem_cons.1 hs
    cases hseparator : isSeparator c with
    | true =>
      rw [words_separator hseparator]
      exact (ih hrest false).trans (by simp [hseparator])
    | false =>
      have hc := isWordChar_iff.2 ⟨hblank, hseparator⟩
      obtain ⟨new, running, ⟨hnew, -⟩, hwords⟩ := exists_words_char hc false inRun rest
      have hsame : words false inRun (c :: rest) = new ++ words true running rest :=
        hwords.elim id id
      rw [hsame]
      exact iff_of_true (List.append_ne_nil_of_left_ne_nil hnew _)
        ⟨c, List.mem_cons_self, hseparator⟩

end Label

open Label

/-! ## Labels -/

/-- The label of an identifier without blanks has no separators and no blanks other than spaces. It
does not start with a space, and no two spaces in it are neighbours. It ends with a space exactly if
the identifier ends with a separator and has other characters too. -/
theorem label_spaced {identifier : String} (h : ∀ c ∈ identifier.toList, isBlank c = false) :
    (∀ c ∈ (label identifier).toList,
        c ∉ ['_', '$', '-', '.'] ∧ (isBlank c = true → c = ' ')) ∧
      (label identifier).toList.head? ≠ some ' ' ∧
      ¬[' ', ' '] <:+: (label identifier).toList ∧
      ((label identifier).toList.getLast? = some ' ' ↔
        (∃ c ∈ identifier.toList.getLast?, c ∈ ['_', '$', '-', '.']) ∧
          ∃ c ∈ identifier.toList, c ∉ ['_', '$', '-', '.']) := by
  have hwords := spaced_words h false false
  have hlabel := hwords.capitalized
  have hempty := words_ne_nil_iff h false
  simp only [← isSeparator_iff, Bool.not_eq_true]
  rw [toList_label, ← hempty]
  refine ⟨fun c hc => ?_, hlabel.head?_ne_space, hlabel.not_infix_spaces, ?_⟩
  · rcases hlabel.isWordChar_or_space c hc with hchar | rfl
    · obtain ⟨hblank, hseparator⟩ := isWordChar_iff.1 hchar
      exact ⟨hseparator, fun h => absurd h (by simp [hblank])⟩
    · exact ⟨by decide, fun _ => rfl⟩
  · by_cases hne : words false false identifier.toList = []
    · simp [hne, capitalize]
    · have hidentifier : identifier.toList ≠ [] := fun h => hne (by rw [h, words])
      rw [hlabel.getLast?_eq_space_iff (hwords.capitalize_ne_nil hne), lastHolds,
        List.getLast?_eq_some_getLast hidentifier]
      simp [hne]

/-- Separators at both ends and next to each other, a run of capitals and a capital beyond ASCII. -/
theorem label_spaced_server :
    (∀ c ∈ "$_HTTPServer..maxÉtat-_".toList, isBlank c = false) ∧
      label "$_HTTPServer..maxÉtat-_" = "HTTPServer max état " ∧
      (label "$_HTTPServer..maxÉtat-_").toList.head? ≠ some ' ' ∧
      ¬[' ', ' '] <:+: (label "$_HTTPServer..maxÉtat-_").toList ∧
      (label "$_HTTPServer..maxÉtat-_").toList.getLast? = some ' ' := by
  have hsolid : ∀ c ∈ "$_HTTPServer..maxÉtat-_".toList, isBlank c = false := by simp [isBlank]
  obtain ⟨-, hstart, hapart, hend⟩ := label_spaced hsolid
  refine ⟨hsolid, by decide +kernel, hstart, hapart, hend.2 ⟨⟨'_', ?_⟩, 'H', ?_⟩⟩
  · decide
  · decide

/-- A separator at the end separates no words, and a space stands in its place nevertheless. -/
theorem label_trailing_space :
    (∀ c ∈ "class_".toList, isBlank c = false) ∧ label "class_" = "Class " ∧
      (label "class_").toList.getLast? = some ' ' :=
  ⟨by simp [isBlank], by decide, by decide⟩

end Metatype
