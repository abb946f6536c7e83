import Metatype.Label

/-!
# The text of labels

Labels of identifiers in ASCII. A label has the letters and digits of its identifier, in their order
and up to their case, and it is its own label: each run of capitals in it stands at its start or
behind a blank, so that no further space is due, and the capital that it starts with is a word of
its own or belongs to such a run.

* `Label.words_words`: cutting words again changes nothing.
* `Label.map_toLower_words`: what is written besides spaces.
* `label_stable`: the label of a label, and the text that it keeps.
-/

namespace Metatype

open Text (forall_ascii isBlank isUpper)

namespace Label

/-! ## ASCII -/

/-- All characters of a text are in ASCII. -/
def IsAscii (s : List Char) : Prop := ∀ c ∈ s, c.toNat < 128

theorem isAscii_cons {c : Char} {s : List Char} :
    IsAscii (c :: s) ↔ c.toNat < 128 ∧ IsAscii s := List.forall_mem_cons

theorem isAscii_append {s t : List Char} : IsAscii (s ++ t) ↔ IsAscii s ∧ IsAscii t :=
  List.forall_mem_append

/-- A capital is a letter, and so is the small letter that belongs to it. -/
theorem letter_of_isUpper : ∀ c : Char, c.toNat < 128 → isUpper c = true →
    (isBlank c = false ∧ isSeparator c = false) ∧ c.toLower.toNat < 128 ∧
      isUpper c.toLower = false ∧ isBlank c.toLower = false ∧ isSeparator c.toLower = false ∧
      c.toLower.toLower = c.toLower := forall_ascii (by decide)

/-- The upper case of a character is the character, or the capital of a small letter. -/
theorem toUpper_cases : ∀ c : Char, c.toNat < 128 → c.toUpper = c ∨
    c.toUpper.toLower = c ∧ isUpper c.toUpper = true ∧ c.toUpper.toNat < 128 ∧
      isUpper c = false ∧ isBlank c = false ∧ isSeparator c = false :=
  forall_ascii (by decide)

theorem toLower_toUpper {c : Char} (hc : c.toNat < 128) :
    c.toUpper.toLower = c.toLower ∧ isBlank c.toUpper = isBlank c := by
  rcases toUpper_cases c hc with hsame | ⟨hlower, hupper, hascii, -, hblank, -⟩
  · rw [hsame]
    exact ⟨rfl, rfl⟩
  · obtain ⟨⟨hcapital, -⟩, -, -, -, -, hsmall⟩ := letter_of_isUpper _ hascii hupper
    rw [hlower] at hsmall
    exact ⟨hlower.trans hsmall.symm, hcapital.trans hblank.symm⟩

/-! ## Words of a text in ASCII -/

theorem words_separator {c : Char} (h : isSeparator c = true) (inside inRun : Bool)
    (rest : List Char) :
    words inside inRun (c :: rest) = gap inside ++ words false false rest := by
  rw [words, if_pos h]

theorem words_plain {c : Char} (hseparator : isSeparator c = false) (hupper : isUpper c = false)
    (inside inRun : Bool) (rest : List Char) :
    words inside inRun (c :: rest) = c :: words (!isBlank c) false rest := by
  rw [words, if_neg (by simp [hseparator]), if_neg (by simp [hupper])]

/-- It makes a difference to be in a run only for a capital. -/
theorem words_of_not_startsUpper {rest : List Char} (h : startsUpper rest = false)
    (inside inRun : Bool) : words inside inRun rest = words inside false rest := by
  cases rest with
  | nil => rfl
  | cons d rest =>
    have hd : isUpper d ≠ true := ne_true_of_eq_false h
    rw [words, words, if_neg hd, if_neg hd]

section

variable {c : Char} (hc : c.toNat < 128) (hupper : isUpper c = true)

include hc hupper

/-- A capital goes on a run. -/
theorem words_inRun (inside : Bool) (rest : List Char) :
    words inside true (c :: rest) = c :: words true true rest := by
  obtain ⟨⟨hblank, hseparator⟩, -⟩ := letter_of_isUpper c hc hupper
  rw [words, if_neg (by simp [hseparator]), if_pos hupper, if_pos rfl, hblank]
  rfl

/-- A capital before another one starts a run. -/
theorem words_run {rest : List Char} (hnext : startsUpper rest = true) (inside : Bool) :
    words inside false (c :: rest) = gap inside ++ c :: words true true rest := by
  obtain ⟨⟨hblank, hseparator⟩, -⟩ := letter_of_isUpper c hc hupper
  rw [words, if_neg (by simp [hseparator]), if_pos hupper, if_neg (by simp), if_pos hnext,
    List.append_assoc, List.singleton_append]
  simp [insideAfter, hblank]

/-- Any other capital starts a word, in small letters. -/
theorem words_lone {rest : List Char} (hnext : startsUpper rest = false) (inside : Bool) :
    words inside false (c :: rest) = gap inside ++ c.toLower :: words true false rest := by
  obtain ⟨⟨-, hseparator⟩, -, -, hblank, -⟩ := letter_of_isUpper c hc hupper
  rw [words, if_neg (by simp [hseparator]), if_pos hupper, if_neg (by simp),
    if_neg (by simp [hnext]), Text.lower_ascii hc, List.append_assoc, List.singleton_append]
  simp only [insideAfter, List.getLast?_singleton, hblank, Bool.not_false]
  rw [words_of_not_startsUpper hnext true true]

end

/-- Induction along the words of a text in ASCII. It is empty, or it starts with a separator, a
plain character, or a capital that goes on a run, starts one, or is the first letter of a word. -/
theorem words_induction {motive : Bool → Bool → (s : List Char) → IsAscii s → Prop}
    (nil : ∀ inside inRun h, motive inside inRun [] h)
    (separator : ∀ inside inRun c rest h hrest, isSeparator c = true →
      motive false false rest hrest → motive inside inRun (c :: rest) h)
    (plain : ∀ inside inRun c rest h hrest, c.toNat < 128 → isSeparator c = false →
      isUpper c = false → motive (!isBlank c) false rest hrest → motive inside inRun (c :: rest) h)
    (inRun : ∀ inside c rest h hrest, c.toNat < 128 → isUpper c = true →
      motive true true rest hrest → motive inside true (c :: rest) h)
    (run : ∀ inside c rest h hrest, c.toNat < 128 → isUpper c = true →
      startsUpper rest = true → motive true true rest hrest → motive inside false (c :: rest) h)
    (lone : ∀ inside c rest h hrest, c.toNat < 128 → isUpper c = true →
      startsUpper rest = false → motive true false rest hrest → motive inside false (c :: rest) h)
    (inside running : Bool) (s : List Char) (h : IsAscii s) : motive inside running s h := by
  induction s generalizing inside running with
  | nil => exact nil inside running h
  | cons c rest ih =>
    obtain ⟨hc, hrest⟩ := isAscii_cons.1 h
    have ih := fun inside running => ih inside running hrest
    cases hseparator : isSeparator c with
    | true => exact separator inside running c rest h hrest hseparator (ih false false)
    | false =>
      cases hupper : isUpper c with
      | false => exact plain inside running c rest h hrest hc hseparator hupper (ih _ false)
      | true =>
        cases running with
        | true => exact inRun inside c rest h hrest hc hupper (ih true true)
        | false =>
          cases hnext : startsUpper rest with
          | true => exact run inside c rest h hrest hc hupper hnext (ih true true)
          | false => exact lone inside c rest h hrest hc hupper hnext (ih true false)

/-! ## Cutting words again -/

theorem words_gap {inside inRun : Bool} (h : inRun = true → inside = true) (s : List Char) :
    words inside inRun (gap inside ++ s) = gap inside ++ words false false s := by
  cases inside with
  | true => exact words_plain (by decide) (by decide) true inRun s
  | false =>
    cases inRun with
    | true => cases h rfl
    | false => rfl

theorem startsUpper_words {s : List Char} (hs : IsAscii s) (h : startsUpper s = true) :
    startsUpper (words true true s) = true := by
  cases s with
  | nil => cases h
  | cons d rest =>
    rw [words_inRun (isAscii_cons.1 hs).1 h]
    exact h

/-- Words are cut where they are cut already. -/
theorem words_words {s : List Char} (hs : IsAscii s) {inside inRun : Bool}
    (hrun : inRun = true → inside = true) :
    words inside inRun (words inside inRun s) = words inside inRun s := by
  induction inside, inRun, s, hs using words_induction with
  | nil inside inRun => rfl
  | separator inside inRun c rest _ _ hseparator ih =>
    rw [words_separator hseparator, words_gap hrun, ih nofun]
  | plain inside inRun c rest _ _ hc hseparator hupper ih =>
    rw [words_plain hseparator hupper, words_plain hseparator hupper, ih nofun]
  | inRun inside c rest _ _ hc hupper ih =>
    rw [words_inRun hc hupper, words_inRun hc hupper, ih fun _ => rfl]
  | run inside c rest _ hrest hc hupper hnext ih =>
    rw [words_run hc hupper hnext, words_gap hrun,
      words_run hc hupper (startsUpper_words hrest hnext), ih fun _ => rfl]
    rfl
  | lone inside c rest _ _ hc hupper hnext ih =>
    obtain ⟨-, -, hsmall, hblank, hseparator, -⟩ := letter_of_isUpper c hc hupper
    rw [words_lone hc hupper hnext, words_gap hrun, words_plain hseparator hsmall, hblank]
    exact congrArg (gap inside ++ c.toLower :: ·) (ih nofun)

theorem isAscii_gap (inside : Bool) : IsAscii (gap inside) := by
  cases inside with
  | true => exact List.forall_mem_singleton.2 (by decide)
  | false => exact nofun

theorem isAscii_words {s : List Char} (hs : IsAscii s) (inside inRun : Bool) :
    IsAscii (words inside inRun s) := by
  induction inside, inRun, s, hs using words_induction with
  | nil inside inRun h => exact h
  | separator inside inRun c rest _ _ hseparator ih =>
    rw [words_separator hseparator]
    exact isAscii_append.2 ⟨isAscii_gap inside, ih⟩
  | plain inside inRun c rest _ _ hc hseparator hupper ih =>
    rw [words_plain hseparator hupper]
    exact isAscii_cons.2 ⟨hc, ih⟩
  | inRun inside c rest _ _ hc hupper ih =>
    rw [words_inRun hc hupper]
    exact isAscii_cons.2 ⟨hc, ih⟩
  | run inside c rest _ _ hc hupper hnext ih =>
    rw [words_run hc hupper hnext]
    exact isAscii_append.2 ⟨isAscii_gap inside, isAscii_cons.2 ⟨hc, ih⟩⟩
  | lone inside c rest _ _ hc hupper hnext ih =>
    obtain ⟨-, hsmall, -⟩ := letter_of_isUpper c hc hupper
    rw [words_lone hc hupper hnext]
    exact isAscii_append.2 ⟨isAscii_gap inside, isAscii_cons.2 ⟨hsmall, ih⟩⟩

/-! ## The first character -/

theorem not_startsUpper_of_words {s : List Char} (hs : IsAscii s)
    (h : words true false s = s) : startsUpper s = false := by
  cases s with
  | nil => rfl
  | cons c rest =>
    obtain ⟨hc, -⟩ := isAscii_cons.1 hs
    cases hupper : isUpper c with
    | false => exact hupper
    | true =>
      -- a capital inside of a word is preceded by a space
      have hspace : (words true false (c :: rest)).head? = some ' ' := by
        cases hnext : startsUpper rest with
        | true => exact congrArg List.head? (words_run hc hupper hnext true)
        | false => exact congrArg List.head? (words_lone hc hupper hnext true)
      rw [h, List.head?_cons, Option.some.injEq] at hspace
      rw [hspace] at hupper
      cases hupper

/-- The first character of words may be a capital that was made of a small letter. It is a word's
first letter then, and becomes the same small letter again. -/
theorem capitalize_words {s : List Char} (hs : IsAscii s) (h : words false false s = s) :
    capitalize (words false false (capitalize s)) = capitalize s := by
  cases s with
  | nil => rfl
  | cons c rest =>
    obtain ⟨hc, hrest⟩ := isAscii_cons.1 hs
    rw [capitalize, Text.upper_ascii hc, List.singleton_append]
    rcases toUpper_cases c hc with hsame | ⟨hlower, hupper, hascii, hsmall, hblank, hseparator⟩
    · rw [hsame, h, capitalize, Text.upper_ascii hc, hsame]
      rfl
    · rw [words_plain hseparator hsmall, hblank, List.cons.injEq] at h
      have hkept : words true false rest = rest := h.2
      have hnext := not_startsUpper_of_words hrest hkept
      rw [words_lone hascii hupper hnext, hlower, hkept]
      exact congrArg (· ++ rest) (Text.upper_ascii hc)

/-! ## The text of words -/

/-- The characters of a text other than blanks, in small letters. -/
def inked (s : List Char) : List Char := (s.filter fun c => !isBlank c).map Char.toLower

theorem inked_cons (c : Char) (s : List Char) :
    inked (c :: s) = (if isBlank c then [] else [c.toLower]) ++ inked s := by
  rw [inked, List.filter_cons]
  cases isBlank c <;> rfl

theorem inked_gap (inside : Bool) (s : List Char) : inked (gap inside ++ s) = inked s := by
  cases inside <;> rfl

/-- The words have the characters of a text that are no blanks and separate no words. -/
theorem inked_words {s : List Char} (hs : IsAscii s) (inside inRun : Bool) :
    inked (words inside inRun s) = inked (s.filter fun c => !isSeparator c) := by
  induction inside, inRun, s, hs using words_induction with
  | nil inside inRun => rfl
  | separator inside inRun c rest _ _ hseparator ih =>
    rw [words_separator hseparator, inked_gap, ih, List.filter_cons_of_neg (by simp [hseparator])]
  | plain inside inRun c rest _ _ hc hseparator hupper ih =>
    rw [words_plain hseparator hupper, List.filter_cons_of_pos (by simp [hseparator]), inked_cons,
      inked_cons, ih]
  | inRun inside c rest _ _ hc hupper ih =>
    obtain ⟨⟨-, hseparator⟩, -⟩ := letter_of_isUpper c hc hupper
    rw [words_inRun hc hupper, List.filter_cons_of_pos (by simp [hseparator]), inked_cons,
      inked_cons, ih]
  | run inside c rest _ _ hc hupper hnext ih =>
    obtain ⟨⟨-, hseparator⟩, -⟩ := letter_of_isUpper c hc hupper
    rw [words_run hc hupper hnext, inked_gap, List.filter_cons_of_pos (by simp [hseparator]),
      inked_cons, inked_cons, ih]
  | lone inside c rest _ _ hc hupper hnext ih =>
    obtain ⟨⟨hblank, hseparator⟩, -, -, hsmall, -, hsame⟩ := letter_of_isUpper c hc hupper
    rw [words_lone hc hupper hnext, inked_gap, List.filter_cons_of_pos (by simp [hseparator]),
      inked_cons, inked_cons, hsmall, hblank, hsame, ih]

/-- The case of the first character makes no difference. -/
theorem inked_capitalize {s : List Char} (hs : IsAscii s) : inked (capitalize s) = inked s := by
  cases s with
  | nil => rfl
  | cons c rest =>
    obtain ⟨hc, -⟩ := isAscii_cons.1 hs
    obtain ⟨hlower, hblank⟩ := toLower_toUpper hc
    rw [capitalize, Text.upper_ascii hc, List.singleton_append, inked_cons, inked_cons, hlower,
      hblank]

end Label

open Label

theorem toList_label (s : String) :
    (label s).toList = capitalize (words false false s.toList) := String.toList_ofList

/-- The label of an identifier in ASCII is its own label. Besides blanks it has the characters of
the identifier that are no blanks and separate no words, in the same order and up to their case. -/
theorem label_stable {identifier : String} (h : ∀ c ∈ identifier.toList, c.toNat < 128) :
    label (label identifier) = label identifier ∧
      ((label identifier).toList.filter fun c => !isBlank c).map Char.toLower =
        (identifier.toList.filter fun c => !isBlank c && !isSeparator c).map Char.toLower := by
  have hwords := isAscii_words h false false
  constructor
  · have hstable : (label (label identifier)).toList = (label identifier).toList := by
      rw [toList_label, toList_label, capitalize_words hwords (words_words h nofun)]
    exact String.toList_inj.1 hstable
  · rw [toList_label, ← List.filter_filter]
    exact (inked_capitalize hwords).trans (inked_words h false false)

/-- Separators next to each other, blanks, a run of capitals at the start and one behind a digit. -/
theorem label_stable_urls :
    (∀ c ∈ "HTTPUrl__of\tserver2URLs".toList, c.toNat < 128) ∧
      label (label "HTTPUrl__of\tserver2URLs") = label "HTTPUrl__of\tserver2URLs" ∧
      ((label "HTTPUrl__of\tserver2URLs").toList.filter fun c => !isBlank c).map Char.toLower =
        "httpurlofserver2urls".toList := by
  have hascii : IsAscii "HTTPUrl__of\tserver2URLs".toList := by simp [IsAscii]
  obtain ⟨hstable, htext⟩ := label_stable hascii
  exact ⟨hascii, hstable, htext.trans (by decide)⟩

end Metatype
