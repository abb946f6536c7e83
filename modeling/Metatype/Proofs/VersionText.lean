import Mathlib.Data.List.TakeWhile
import Metatype.SemanticVersion

/-!
# The texts of semantic versions

Every version has one text, and the reader accepts the texts of the versions whose parts are in
bounds and nothing else. For each part of the reader there is one equivalence: it gives a value and
the text after it exactly if the text starts with what the value is written as, and cannot be
continued.

* `SemanticVersion.number_eq_ok_iff`, `identifiers_eq_ok_iff`, `announced_eq_ok_iff`: the parts.
* `SemanticVersion.parse_eq_ok_iff`: the whole text.
-/

namespace Metatype.SemanticVersion

/-! ## Texts -/

/-- Identifiers with dots between them. -/
def joined (ids : List (List Char)) : List Char := ['.'].intercalate ids

/-- Identifiers after their mark; nothing if there are none. -/
def marked (mark : Char) : List (List Char) → List Char
  | [] => []
  | ids => mark :: joined ids

/-- The text of a version. -/
def chars (v : SemanticVersion) : List Char :=
  Nat.toDigits 10 v.major ++ '.' :: (Nat.toDigits 10 v.minor ++ '.' ::
    (Nat.toDigits 10 v.patch ++ (marked '-' v.preRelease ++ marked '+' v.build)))

/-- An identifier: at least one letter, digit or hyphen. -/
def IsIdentifier (s : List Char) : Prop := s ≠ [] ∧ ∀ c ∈ s, isIdentifierChar c = true

/-- A number of several digits that starts with zero. -/
def PadsNumber (s : List Char) : Prop :=
  (∀ c ∈ s, c.isDigit = true) ∧ 1 < s.length ∧ s.head? = some '0'

/-- The bounds on the parts of a version: numbers of at most 64 bits, identifiers of the right
characters, no padded number in a pre-release. -/
structure IsValid (v : SemanticVersion) : Prop where
  major : v.major < Numeral.twoTo 64
  minor : v.minor < Numeral.twoTo 64
  patch : v.patch < Numeral.twoTo 64
  preRelease : ∀ s ∈ v.preRelease, IsIdentifier s ∧ ¬PadsNumber s
  build : ∀ s ∈ v.build, IsIdentifier s

/-! ## Where a part ends -/

/-- The text does not start with a character of this kind. -/
def StartsWithout (p : Char → Bool) (s : List Char) : Prop := ∀ c ∈ s.head?, p c = false

theorem startsWithout_nil (p : Char → Bool) : StartsWithout p [] := nofun

theorem startsWithout_cons {p : Char → Bool} {c : Char} {s : List Char} :
    StartsWithout p (c :: s) ↔ p c = false := by
  simp [StartsWithout]

theorem startsWithout_marked_append {p : Char → Bool} {mark : Char} (hmark : p mark = false)
    {rest : List Char} (hrest : StartsWithout p rest) (ids : List (List Char)) :
    StartsWithout p (marked mark ids ++ rest) := by
  cases ids with
  | nil => exact hrest
  | cons s ids => exact startsWithout_cons.2 hmark

/-- Where a text is cut behind its first characters of one kind. -/
theorem takeWhile_dropWhile_iff {p : Char → Bool} {s front rest : List Char} :
    s.takeWhile p = front ∧ s.dropWhile p = rest ↔
      s = front ++ rest ∧ (∀ c ∈ front, p c = true) ∧ StartsWithout p rest := by
  constructor
  · rintro ⟨rfl, rfl⟩
    refine ⟨List.takeWhile_append_dropWhile.symm, fun c hc => List.mem_takeWhile_imp hc, ?_⟩
    intro c hc
    simpa [Option.mem_def.1 hc] using List.head?_dropWhile_not p s
  · rintro ⟨rfl, hfront, hrest⟩
    rw [List.takeWhile_append_of_pos hfront, List.dropWhile_append_of_pos hfront]
    cases rest with
    | nil => simp
    | cons c rest => simp [startsWithout_cons.1 hrest]

/-! ## Steps that can fail -/

theorem bind_eq_ok_iff {ε α β : Type} {x : Except ε α} {f : α → Except ε β} {b : β} :
    x >>= f = .ok b ↔ ∃ a, x = .ok a ∧ f a = .ok b := by
  cases x with
  | error e => exact ⟨nofun, nofun⟩
  | ok a => exact ⟨fun h => ⟨a, rfl, h⟩, by rintro ⟨_, ⟨⟩, h⟩; exact h⟩

theorem forM_eq_ok_iff {ε α : Type} {f : α → Except ε Unit} {xs : List α} :
    xs.forM f = .ok () ↔ ∀ x ∈ xs, f x = .ok () := by
  induction xs with
  | nil => simp [pure, Except.pure]
  | cons x xs ih =>
    rw [List.forall_mem_cons, ← ih]
    change f x >>= (fun _ => xs.forM f) = .ok () ↔ _
    rw [bind_eq_ok_iff]
    exact ⟨fun ⟨_, h⟩ => h, fun h => ⟨(), h⟩⟩

/-! ## Digits -/

theorem toDigits_inj {m n : Nat} (h : Nat.toDigits 10 m = Nat.toDigits 10 n) : m = n := by
  have hvalue := congrArg (Nat.ofDigitChars 10 · 0) h
  simpa only [Nat.ofDigitChars_ten_toDigits] using hvalue

theorem isDigit_of_mem_toDigits {n : Nat} {c : Char} (h : c ∈ Nat.toDigits 10 n) :
    c.isDigit = true := Nat.isDigit_of_mem_toDigits (by decide) (by decide) h

theorem le_ofDigitChars (digits : List Char) (value : Nat) :
    value ≤ Nat.ofDigitChars 10 digits value := by
  induction digits generalizing value with
  | nil => exact Nat.le_refl _
  | cons c digits ih =>
    have hnext := ih (10 * value + (c.toNat - '0'.toNat))
    rw [Nat.ofDigitChars_cons]
    omega

/-- Digits added to a number do not make it smaller. -/
theorem le_of_toDigits_append {m n : Nat} {digits : List Char}
    (h : Nat.toDigits 10 m ++ digits = Nat.toDigits 10 n) : m ≤ n := by
  have hvalue := congrArg (Nat.ofDigitChars 10 · 0) h
  simp only [Nat.ofDigitChars_append, Nat.ofDigitChars_ten_toDigits] at hvalue
  exact hvalue ▸ le_ofDigitChars digits m

/-- Only zero is written with a zero first. -/
theorem eq_nil_of_toDigits_eq_zero_cons {n : Nat} {digits : List Char}
    (h : Nat.toDigits 10 n = '0' :: digits) : digits = [] := by
  induction n using Nat.strongRecOn generalizing digits with
  | ind n ih =>
    rw [Nat.toDigits_eq_if (by decide)] at h
    split at h
    · exact (List.cons.inj h).2.symm
    · rename_i hten
      obtain ⟨c, front, hfront⟩ := List.exists_cons_of_ne_nil (Nat.toDigits_ne_nil (n := n / 10) (b := 10))
      rw [hfront, List.cons_append] at h
      obtain ⟨rfl, -⟩ := List.cons.inj h
      have hzero : Nat.toDigits 10 (n / 10) = Nat.toDigits 10 0 := by
        rw [hfront, ih (n / 10) (Nat.div_lt_self (by omega) (by decide)) hfront]
        rfl
      have hsmall : n / 10 = 0 := toDigits_inj hzero
      omega

theorem toDigits_digit {c : Char} (h : c.isDigit = true) :
    c.toNat - '0'.toNat < 10 ∧ Nat.toDigits 10 (c.toNat - '0'.toNat) = [c] := by
  obtain ⟨hlow, hhigh⟩ := Char.isDigit_iff_toNat.1 h
  have hten : c.toNat - '0'.toNat < 10 := by
    change c.toNat ≤ 57 at hhigh
    change c.toNat - 48 < 10
    omega
  refine ⟨hten, ?_⟩
  rw [Nat.toDigits_of_lt_base hten, List.singleton_inj, ← Char.toNat_inj,
    Nat.toNat_digitChar_of_lt_ten hten]
  exact Nat.add_sub_cancel' hlow

theorem toDigits_append_digit {value : Nat} (hvalue : value ≠ 0) {c : Char}
    (h : c.isDigit = true) :
    Nat.toDigits 10 value ++ [c] = Nat.toDigits 10 (value * 10 + (c.toNat - '0'.toNat)) := by
  obtain ⟨hten, hdigit⟩ := toDigits_digit h
  rw [← hdigit, Nat.toDigits_append_toDigits (by decide) (Nat.pos_of_ne_zero hvalue) hten,
    Nat.mul_comm]

/-! ## Numbers -/

/-- Digits are read on exactly if they complete those of a number that is not too large. -/
theorem moreDigits_eq_ok_iff {part : Part} {value n : Nat} (hvalue : value < Numeral.twoTo 64)
    {s rest : List Char} :
    moreDigits part value s = .ok (n, rest) ↔ n < Numeral.twoTo 64 ∧
      Nat.toDigits 10 value ++ s.takeWhile Char.isDigit = Nat.toDigits 10 n ∧
      s.dropWhile Char.isDigit = rest := by
  induction s generalizing value with
  | nil =>
    simp only [moreDigits, Except.ok.injEq, Prod.mk.injEq, List.takeWhile_nil, List.append_nil,
      List.dropWhile_nil]
    constructor
    · rintro ⟨rfl, rfl⟩
      exact ⟨hvalue, rfl, rfl⟩
    · rintro ⟨-, hdigits, rfl⟩
      exact ⟨toDigits_inj hdigits, rfl⟩
  | cons c s ih =>
    cases hc : c.isDigit with
    | false =>
      simp only [moreDigits, hc, Bool.false_eq_true, if_false, Except.ok.injEq, Prod.mk.injEq,
        List.takeWhile_cons, List.append_nil, List.dropWhile_cons]
      constructor
      · rintro ⟨rfl, rfl⟩
        exact ⟨hvalue, rfl, rfl⟩
      · rintro ⟨-, hdigits, rfl⟩
        exact ⟨toDigits_inj hdigits, rfl⟩
    | true =>
      rw [List.takeWhile_cons_of_pos hc, List.dropWhile_cons_of_pos hc, moreDigits, if_pos hc]
      by_cases hzero : value = 0
      · subst hzero
        rw [if_pos rfl]
        constructor
        · intro h
          cases h
        · rintro ⟨-, hdigits, -⟩
          exact nomatch eq_nil_of_toDigits_eq_zero_cons hdigits.symm
      · rw [if_neg hzero, List.append_cons, toDigits_append_digit hzero hc]
        by_cases hnext : value * 10 + (c.toNat - '0'.toNat) < Numeral.twoTo 64
        · rw [← ih hnext, if_pos hnext]
        · rw [if_neg hnext]
          constructor
          · intro h
            cases h
          · rintro ⟨hn, hdigits, -⟩
            exact absurd (Nat.lt_of_le_of_lt (le_of_toDigits_append hdigits) hn) hnext

/-- A number is read exactly if the text starts with its digits, and with no more. -/
theorem number_eq_ok_iff {part : Part} {n : Nat} {s rest : List Char} :
    number part s = .ok (n, rest) ↔ n < Numeral.twoTo 64 ∧ s = Nat.toDigits 10 n ++ rest ∧
      StartsWithout Char.isDigit rest := by
  have hcut : s.takeWhile Char.isDigit = Nat.toDigits 10 n ∧ s.dropWhile Char.isDigit = rest ↔
      s = Nat.toDigits 10 n ++ rest ∧ StartsWithout Char.isDigit rest := by
    rw [takeWhile_dropWhile_iff, and_iff_right fun c hc => isDigit_of_mem_toDigits hc]
  rw [← hcut]
  cases s with
  | nil => simp [number, Nat.toDigits_ne_nil.symm]
  | cons c s =>
    rw [number]
    split
    · rename_i hc
      obtain ⟨hten, hdigit⟩ := toDigits_digit hc
      have hsmall : c.toNat - '0'.toNat < Numeral.twoTo 64 := Nat.lt_trans hten (by decide)
      rw [moreDigits_eq_ok_iff hsmall, hdigit, List.takeWhile_cons_of_pos hc,
        List.dropWhile_cons_of_pos hc, List.singleton_append]
    · rename_i hc
      simp [hc, Nat.toDigits_ne_nil.symm]

theorem dot_eq_ok_iff {part : Part} {s rest : List Char} :
    dot part s = .ok rest ↔ s = '.' :: rest := by
  cases s with
  | nil => simp [dot]
  | cons c s =>
    rw [dot]
    split <;> simp_all

/-! ## Identifiers -/

theorem segments_eq_splitOn (s : List Char) : segments s = s.splitOn '.' := by
  induction s with
  | nil => rfl
  | cons c s ih =>
    rw [segments, List.splitOn_cons_eq_if_modifyHead, ih]
    split
    · simp_all
    · obtain ⟨first, more, hsplit⟩ := List.exists_cons_of_ne_nil (List.splitOn_ne_nil '.' s)
      simp_all

theorem mem_segments {t s : List Char} (hs : s ∈ segments t) {c : Char} (hc : c ∈ s) :
    c ∈ t ∧ c ≠ '.' := by
  induction t generalizing s with
  | nil => simp_all [segments]
  | cons d t ih =>
    rw [segments] at hs
    split at hs
    · rcases List.mem_cons.1 hs with rfl | hs
      · exact absurd hc List.not_mem_nil
      · exact (ih hs hc).imp_left (List.mem_cons_of_mem _)
    · rename_i hd
      obtain ⟨first, more, hsplit⟩ := List.exists_cons_of_ne_nil
        (segments_eq_splitOn t ▸ List.splitOn_ne_nil '.' t)
      rw [hsplit] at hs ih
      rcases List.mem_cons.1 hs with rfl | hs
      · rcases List.mem_cons.1 hc with rfl | hc
        · exact ⟨List.mem_cons_self, hd⟩
        · exact (ih List.mem_cons_self hc).imp_left (List.mem_cons_of_mem _)
      · exact (ih (List.mem_cons_of_mem _ hs) hc).imp_left (List.mem_cons_of_mem _)

/-- What an identifier must satisfy in its part. -/
def Part.Admits (part : Part) (s : List Char) : Prop :=
  IsIdentifier s ∧ (part = .preRelease → ¬PadsNumber s)

/-- The characters that a run of identifiers goes on with. -/
def continues (c : Char) : Bool := isIdentifierChar c || c = '.'

theorem continues_of_mem_joined {ids : List (List Char)} (h : ∀ s ∈ ids, IsIdentifier s) :
    ∀ c ∈ joined ids, continues c = true := by
  induction ids with
  | nil => simp [joined]
  | cons s ids ih =>
    have hs : ∀ c ∈ s, continues c = true := fun c hc => by
      simp [continues, (h s List.mem_cons_self).2 c hc]
    have hids := ih fun t ht => h t (List.mem_cons_of_mem _ ht)
    by_cases hnil : ids = []
    · subst hnil
      simpa [joined] using hs
    · intro c hc
      rw [joined, List.intercalate_cons_of_ne_nil hnil, List.mem_append, List.mem_append,
        List.mem_singleton] at hc
      rcases hc with (hc | rfl) | hc
      · exact hs c hc
      · rfl
      · exact hids c hc

theorem segments_joined {ids : List (List Char)} (hne : ids ≠ [])
    (h : ∀ s ∈ ids, IsIdentifier s) : segments (joined ids) = ids := by
  rw [segments_eq_splitOn, joined]
  refine List.splitOn_intercalate '.' (fun s hs hdot => ?_) hne
  exact absurd ((h s hs).2 '.' hdot) (by decide)

theorem checkSegment_eq_ok_iff {part : Part} {s : List Char} :
    checkSegment part s = .ok () ↔ s ≠ [] ∧ (part = .preRelease → ¬PadsNumber s) := by
  unfold checkSegment
  split
  · simp_all
  · split <;> simp_all [PadsNumber]

/-- Identifiers are read exactly if the text starts with them, and with no more. -/
theorem identifiers_eq_ok_iff {part : Part} {ids : List (List Char)} {s rest : List Char} :
    identifiers part s = .ok (ids, rest) ↔ ids ≠ [] ∧ (∀ t ∈ ids, part.Admits t) ∧
      s = joined ids ++ rest ∧ StartsWithout continues rest := by
  have hread : identifiers part s = .ok (ids, rest) ↔
      (∀ t ∈ segments (s.takeWhile continues), checkSegment part t = .ok ()) ∧
        segments (s.takeWhile continues) = ids ∧ s.dropWhile continues = rest := by
    rw [← forM_eq_ok_iff]
    change (segments (s.takeWhile continues)).forM (checkSegment part) >>=
      (fun _ => .ok (segments (s.takeWhile continues), s.dropWhile continues)) = _ ↔ _
    simp only [bind_eq_ok_iff, Except.ok.injEq, Prod.mk.injEq]
    exact ⟨fun ⟨_, h⟩ => h, fun h => ⟨(), h⟩⟩
  rw [hread]
  constructor
  · rintro ⟨hcheck, rfl, rfl⟩
    obtain ⟨-, hinside, hrest⟩ := takeWhile_dropWhile_iff.1 ⟨rfl, rfl⟩
    refine ⟨?_, fun t ht => ?_, ?_, hrest⟩
    · rw [segments_eq_splitOn]
      exact List.splitOn_ne_nil _ _
    · obtain ⟨hne, hpads⟩ := checkSegment_eq_ok_iff.1 (hcheck t ht)
      refine ⟨⟨hne, fun c hc => ?_⟩, hpads⟩
      obtain ⟨hmem, hdot⟩ := mem_segments ht hc
      simpa [continues, hdot] using hinside c hmem
    · rw [joined, segments_eq_splitOn, List.intercalate_splitOn, List.takeWhile_append_dropWhile]
  · rintro ⟨hne, hadmits, hs, hrest⟩
    have hids : ∀ t ∈ ids, IsIdentifier t := fun t ht => (hadmits t ht).1
    obtain ⟨htake, hdrop⟩ := takeWhile_dropWhile_iff.2 ⟨hs, continues_of_mem_joined hids, hrest⟩
    rw [htake, segments_joined hne hids]
    exact ⟨fun t ht => checkSegment_eq_ok_iff.2 ⟨(hids t ht).1, (hadmits t ht).2⟩, rfl, hdrop⟩

/-- Identifiers behind their mark are read exactly if the text starts with them, and with no more.
Without identifiers it must not start with the mark. -/
theorem announced_eq_ok_iff {mark : Char} {part last : Part} {ids : List (List Char)}
    {s rest : List Char} :
    (∃ after, announced mark part last s = .ok (ids, after, rest)) ↔
      (∀ t ∈ ids, part.Admits t) ∧ s = marked mark ids ++ rest ∧
        StartsWithout (if ids = [] then (· = mark) else continues) rest := by
  by_cases hmark : s.head? = some mark
  · obtain ⟨s, rfl⟩ := List.head?_eq_some_iff.1 hmark
    have hread : (∃ after, announced mark part last (mark :: s) = .ok (ids, after, rest)) ↔
        identifiers part s = .ok (ids, rest) := by
      simp only [announced, if_true, bind_eq_ok_iff]
      constructor
      · rintro ⟨_, ⟨found, rest⟩, hfound, ⟨⟩⟩
        exact hfound
      · intro h
        exact ⟨part, _, h, rfl⟩
    rw [hread, identifiers_eq_ok_iff]
    cases ids with
    | nil =>
      simp only [ne_eq, not_true_eq_false, false_and, false_iff, not_and, if_true]
      rintro - rfl hrest
      simpa using startsWithout_cons.1 hrest
    | cons t ids => simp [marked]
  · have hread : announced mark part last s = .ok ([], last, s) := by
      cases s with
      | nil => rfl
      | cons c s => exact if_neg fun h => hmark (congrArg some h)
    rw [hread]
    constructor
    · rintro ⟨_, ⟨⟩⟩
      refine ⟨by simp, rfl, fun c hc => ?_⟩
      simpa using fun heq : c = mark => hmark (heq ▸ hc)
    · rintro ⟨-, rfl, -⟩
      cases ids with
      | nil => exact ⟨last, rfl⟩
      | cons t ids => exact absurd rfl hmark

/-! ## The whole version -/

theorem of_parse {s : List Char} {v : SemanticVersion} (h : parse s = .ok v) :
    v.IsValid ∧ s = v.chars := by
  simp only [parse, bind_eq_ok_iff, Prod.exists] at h
  obtain ⟨major, s₁, hreadMajor, s₂, hdot₁, minor, s₃, hreadMinor, s₄, hdot₂, patch, s₅,
    hreadPatch, preRelease, last, s₆, hreadPre, build, after, s₇, hreadBuild, hend⟩ := h
  obtain ⟨hmajor, rfl, -⟩ := number_eq_ok_iff.1 hreadMajor
  obtain rfl := dot_eq_ok_iff.1 hdot₁
  obtain ⟨hminor, rfl, -⟩ := number_eq_ok_iff.1 hreadMinor
  obtain rfl := dot_eq_ok_iff.1 hdot₂
  obtain ⟨hpatch, rfl, -⟩ := number_eq_ok_iff.1 hreadPatch
  obtain ⟨hpre, rfl, -⟩ := announced_eq_ok_iff.1 ⟨last, hreadPre⟩
  obtain ⟨hbuild, rfl, -⟩ := announced_eq_ok_iff.1 ⟨after, hreadBuild⟩
  cases s₇ with
  | nil =>
    cases hend
    refine ⟨⟨hmajor, hminor, hpatch, fun t ht => ?_, fun t ht => (hbuild t ht).1⟩, ?_⟩
    · exact ⟨(hpre t ht).1, (hpre t ht).2 rfl⟩
    · rw [chars, List.append_nil]
  | cons c s => cases hend

theorem parse_chars {v : SemanticVersion} (h : v.IsValid) : parse v.chars = .ok v := by
  have hpre : ∀ t ∈ v.preRelease, Part.preRelease.Admits t := fun t ht =>
    ⟨(h.preRelease t ht).1, fun _ => (h.preRelease t ht).2⟩
  have hbuild : ∀ t ∈ v.build, Part.build.Admits t := fun t ht => ⟨h.build t ht, nofun⟩
  -- Each mark ends what may stand before it.
  have hplus {p : Char → Bool} (hp : p '+' = false) : StartsWithout p (marked '+' v.build) := by
    simpa using startsWithout_marked_append hp (startsWithout_nil p) v.build
  have hdigits : StartsWithout Char.isDigit (marked '-' v.preRelease ++ marked '+' v.build) :=
    startsWithout_marked_append (by decide) (hplus (by decide)) _
  have hids : StartsWithout (if v.preRelease = [] then (· = '-') else continues)
      (marked '+' v.build) := by
    split <;> exact hplus (by decide)
  have hdot {s : List Char} : StartsWithout Char.isDigit ('.' :: s) :=
    startsWithout_cons.2 (by decide)
  obtain ⟨last, hreadPre⟩ : ∃ last, announced '-' .preRelease .patch
      (marked '-' v.preRelease ++ marked '+' v.build) =
        .ok (v.preRelease, last, marked '+' v.build) :=
    announced_eq_ok_iff.2 ⟨hpre, rfl, hids⟩
  obtain ⟨after, hreadBuild⟩ : ∃ after, announced '+' .build last (marked '+' v.build) =
      .ok (v.build, after, []) :=
    announced_eq_ok_iff.2 ⟨hbuild, (List.append_nil _).symm, startsWithout_nil _⟩
  simp only [parse, bind_eq_ok_iff, Prod.exists]
  refine ⟨v.major, _, number_eq_ok_iff.2 ⟨h.major, rfl, hdot⟩, _, dot_eq_ok_iff.2 rfl, ?_⟩
  refine ⟨v.minor, _, number_eq_ok_iff.2 ⟨h.minor, rfl, hdot⟩, _, dot_eq_ok_iff.2 rfl, ?_⟩
  refine ⟨v.patch, _, number_eq_ok_iff.2 ⟨h.patch, rfl, hdigits⟩, ?_⟩
  exact ⟨v.preRelease, last, _, hreadPre, v.build, after, [], hreadBuild, rfl⟩

/-- A text is read as a version exactly if it is the text of that version and the parts of the
version are in bounds. -/
theorem parse_eq_ok_iff {s : List Char} {v : SemanticVersion} :
    parse s = .ok v ↔ v.IsValid ∧ s = v.chars := by
  constructor
  · exact of_parse
  · rintro ⟨hvalid, rfl⟩
    exact parse_chars hvalid

end Metatype.SemanticVersion
