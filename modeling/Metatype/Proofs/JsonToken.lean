import Metatype.Json.Parser
import Metatype.Json.Printer
import Metatype.Proofs.JsonValue

/-!
# Tokens of JSON text

An integer or a string that is written is read back, whatever text follows it. An integer must not
be followed by a character that could go on with a number.

* `Json.number_integerText`: integers of 64 bits, signed or not.
* `Json.stringBody_quoted`: strings, up to and with the closing quote.
-/

namespace Metatype.Json

open Numeral

/-! ## Digits -/

theorem digitOf_digitChar (d : Fin 10) : digitOf (Nat.digitChar d) = d := by
  revert d
  decide

theorem isDigit_digitChar (d : Fin 10) : (Nat.digitChar d).isDigit = true := by
  revert d
  decide

theorem digit?_digitChar (d : Fin 10) : digit? (Nat.digitChar d) = some d := by
  rw [digit?, if_pos (isDigit_digitChar d), digitOf_digitChar]

theorem digitsOf_of_lt {n : Nat} (h : n < 10) : digitsOf n = [⟨n, h⟩] := by
  rw [digitsOf, Nat.toDigits_of_lt_base h, List.map_singleton]
  exact congrArg (fun d => [d]) (digitOf_digitChar ⟨n, h⟩)

theorem digitsOf_of_le {n : Nat} (h : 10 ≤ n) :
    digitsOf n = digitsOf (n / 10) ++ [⟨n % 10, Nat.mod_lt n (by decide)⟩] := by
  rw [digitsOf, digitsOf, Nat.toDigits_of_base_le (by decide) h, List.map_append,
    List.map_singleton]
  exact congrArg (fun d => (Nat.toDigits 10 (n / 10)).map digitOf ++ [d])
    (digitOf_digitChar ⟨n % 10, Nat.mod_lt n (by decide)⟩)

theorem natOfDigits_append (ds : List (Fin 10)) (d : Fin 10) :
    natOfDigits (ds ++ [d]) = natOfDigits ds * 10 + d := by
  rw [natOfDigits, List.foldl_append]
  rfl

theorem natOfDigits_digitsOf (n : Nat) : natOfDigits (digitsOf n) = n := by
  induction n using Nat.strongRecOn with
  | ind n ih =>
    by_cases h : n < 10
    · rw [digitsOf_of_lt h]
      simp [natOfDigits]
    · have hle : 10 ≤ n := by omega
      rw [digitsOf_of_le hle, natOfDigits_append, ih (n / 10) (by omega)]
      dsimp only
      omega

/-- Only the number zero is written with a zero in front. -/
theorem exists_cons_digitsOf (n : Nat) :
    ∃ d ds, digitsOf n = d :: ds ∧ (d.val = 0 → n = 0 ∧ ds = []) := by
  induction n using Nat.strongRecOn with
  | ind n ih =>
    by_cases h : n < 10
    · exact ⟨⟨n, h⟩, [], digitsOf_of_lt h, fun h0 => ⟨h0, rfl⟩⟩
    · have hle : 10 ≤ n := by omega
      obtain ⟨d, ds, hds, hzero⟩ := ih (n / 10) (by omega)
      refine ⟨d, ds ++ [⟨n % 10, Nat.mod_lt n (by decide)⟩], ?_, fun h0 => ?_⟩
      · rw [digitsOf_of_le hle, hds, List.cons_append]
      · have := (hzero h0).1
        omega

/-! ## Integers -/

/-- The text does not go on with a number that ends before it. -/
def EndsNumber (rest : List Char) : Prop :=
  ∀ c ∈ rest.head?, c.isDigit = false ∧ c ≠ '.' ∧ c ≠ 'e' ∧ c ≠ 'E'

theorem endsNumber_nil : EndsNumber [] := nofun

theorem digits_of_endsNumber {rest : List Char} (h : EndsNumber rest) :
    digits rest = ([], rest) := by
  cases rest with
  | nil => rfl
  | cons c rest =>
    have hc : digit? c = none := by
      rw [digit?, (h c rfl).1]
      rfl
    rw [digits, hc]

theorem digits_digitText (ds : List (Fin 10)) {rest : List Char} (h : EndsNumber rest) :
    digits (digitText ds ++ rest) = (ds, rest) := by
  induction ds with
  | nil => exact digits_of_endsNumber h
  | cons d ds ih =>
    have hcons : digitText (d :: ds) ++ rest = Nat.digitChar d :: (digitText ds ++ rest) := rfl
    rw [hcons, digits, digit?_digitChar, ih]

theorem wholeDigits_digitsOf (n : Nat) {rest : List Char} (h : EndsNumber rest) :
    wholeDigits (digitText (digitsOf n) ++ rest) = some (digitsOf n, rest) := by
  obtain ⟨d, ds, hds, hzero⟩ := exists_cons_digitsOf n
  rw [wholeDigits, digits_digitText _ h, hds]
  cases ds with
  | nil => rfl
  | cons d' ds =>
    have hd : d.val ≠ 0 := fun h0 => by simpa using (hzero h0).2
    dsimp only
    rw [if_neg hd]

theorem fraction_of_endsNumber {rest : List Char} (h : EndsNumber rest) :
    fraction rest = some ([], rest) := by
  unfold fraction
  split
  · rename_i rest
    exact absurd rfl (h '.' rfl).2.1
  · rfl

theorem exponent?_of_endsNumber {rest : List Char} (h : EndsNumber rest) :
    exponent? rest = some (none, rest) := by
  cases rest with
  | nil => rfl
  | cons c rest =>
    obtain ⟨-, -, he, hE⟩ := h c rfl
    have hc : ¬(c = 'e' ∨ c = 'E') := by simp [he, hE]
    rw [exponent?, if_neg hc]

theorem isSome_toDouble? {i : Int} (h : IsInt64 i) : (Number.integer i).toDouble?.isSome := by
  unfold IsInt64 at h
  rw [Number.toDouble?, if_pos h]
  rfl

/-- The digits of an integer are read after its sign. -/
theorem unsignedNumber_digitsOf {i : Int} (hi : IsInt64 i) {negative : Bool}
    (hsign : negative = decide (i < 0)) {rest : List Char} (h : EndsNumber rest) :
    unsignedNumber negative (digitText (digitsOf i.natAbs) ++ rest) = some (.integer i, rest) := by
  have hnumber : numberOf negative (digitsOf i.natAbs) [] none = .integer i := by
    unfold numberOf
    dsimp only
    rw [natOfDigits_digitsOf, hsign]
    by_cases hneg : i < 0
    · have hne : (i.natAbs : Int) ≠ 0 := by omega
      have habs : -(i.natAbs : Int) = i := by omega
      simp only [hneg, decide_true, if_true, if_neg hne, habs]
    · have habs : (i.natAbs : Int) = i := by omega
      simp only [hneg, decide_false, Bool.false_eq_true, if_false, habs]
  simp only [unsignedNumber, wholeDigits_digitsOf _ h, fraction_of_endsNumber h,
    exponent?_of_endsNumber h, Option.bind_eq_bind, Option.bind_some, hnumber,
    isSome_toDouble? hi, if_true]

theorem number_of_isDigit {c : Char} (h : c.isDigit = true) (s : List Char) :
    number (c :: s) = unsignedNumber false (c :: s) := by
  unfold number
  split
  · rename_i hminus
    cases hminus
    cases h
  · rfl

theorem number_integerText {i : Int} (hi : IsInt64 i) {rest : List Char} (h : EndsNumber rest) :
    number (integerText i ++ rest) = some (.integer i, rest) := by
  by_cases hneg : i < 0
  · have htext : integerText i = '-' :: digitText (digitsOf i.natAbs) := by
      rw [integerText, if_pos hneg]
      rfl
    rw [htext, List.cons_append, number]
    exact unsignedNumber_digitsOf hi (by simp [hneg]) h
  · obtain ⟨d, ds, hds, -⟩ := exists_cons_digitsOf i.natAbs
    have htext : integerText i = digitText (digitsOf i.natAbs) := by
      rw [integerText, if_neg hneg]
      rfl
    have hnumber : number (digitText (digitsOf i.natAbs) ++ rest) =
        unsignedNumber false (digitText (digitsOf i.natAbs) ++ rest) := by
      rw [hds]
      exact number_of_isDigit (isDigit_digitChar d) _
    rw [htext, hnumber]
    exact unsignedNumber_digitsOf hi (by simp [hneg]) h

/-- The text of an integer starts with a sign or a digit. -/
theorem exists_head_integerText (i : Int) :
    ∃ c s, integerText i = c :: s ∧ (c = '-' ∨ c.isDigit = true) := by
  obtain ⟨d, ds, hds, -⟩ := exists_cons_digitsOf i.natAbs
  by_cases hneg : i < 0
  · exact ⟨'-', digitText (digitsOf i.natAbs), by rw [integerText, if_pos hneg]; rfl, .inl rfl⟩
  · exact ⟨Nat.digitChar d, digitText ds, by rw [integerText, if_neg hneg, hds]; rfl,
      .inr (isDigit_digitChar d)⟩

/-! ## Strings -/

theorem hexValue?_hexChar {n : Nat} (h : n < 16) : hexValue? (hexChar n) = some n := by
  revert n
  decide

/-- A control character is read from its code. -/
theorem escaped_code {c : Char} (h : c.toNat < 0x20) (rest : List Char) :
    escaped ('u' :: '0' :: '0' :: hexChar (c.toNat / 16) :: hexChar (c.toNat % 16) :: rest) =
      some (c, rest) := by
  have hquad : hexQuad ('0' :: '0' :: hexChar (c.toNat / 16) :: hexChar (c.toNat % 16) :: rest) =
      some (c.toNat, rest) := by
    have hzero : hexValue? '0' = some 0 := by decide
    have hcode : ((0 * 16 + 0) * 16 + c.toNat / 16) * 16 + c.toNat % 16 = c.toNat := by omega
    simp only [hexQuad, hzero, hexValue?_hexChar (show c.toNat / 16 < 16 by omega),
      hexValue?_hexChar (show c.toNat % 16 < 16 by omega), Option.bind_eq_bind, Option.bind_some,
      Option.pure_def, hcode]
  have hlow : ¬(0xd800 ≤ c.toNat ∧ c.toNat < 0xdc00) := by omega
  have hhigh : ¬(0xdc00 ≤ c.toNat ∧ c.toNat < 0xe000) := by omega
  have hletter : letterEscape? 'u' = none := rfl
  simp only [escaped, hletter, if_true, unicodeEscape, hquad, Option.bind_eq_bind,
    Option.bind_some, if_neg hlow, if_neg hhigh, Option.pure_def, Char.ofNat_toNat]

theorem stringBody_backslash {c : Char} {s rest : List Char} (h : escaped s = some (c, rest)) :
    stringBody ('\\' :: s) = (stringBody rest).map fun found => (c :: found.1, found.2) := by
  rw [stringBody]
  split
  · rename_i hnone
    rw [h] at hnone
    cases hnone
  · rename_i hsome
    rw [h] at hsome
    cases hsome
    rfl

theorem stringBody_escape (c : Char) (rest : List Char) :
    stringBody (escape c ++ rest) =
      (stringBody rest).map fun found => (c :: found.1, found.2) := by
  unfold escape
  split
  case h_8 =>
    rename_i hquote hbackslash _ _ _ _ _
    split
    · rename_i hcontrol
      exact stringBody_backslash (escaped_code hcontrol rest)
    · rename_i hcontrol
      rw [List.singleton_append, stringBody, if_neg hcontrol]
      · exact hquote
      · exact hbackslash
  all_goals exact stringBody_backslash rfl

/-- A string is read up to its closing quote. -/
theorem stringBody_quoted (s rest : List Char) :
    stringBody (s.flatMap escape ++ '"' :: rest) = some (s, rest) := by
  induction s with
  | nil =>
    rw [List.flatMap_nil, List.nil_append, stringBody]
  | cons c s ih =>
    rw [List.flatMap_cons, List.append_assoc, stringBody_escape, ih]
    rfl

theorem string_quote (s : String) (rest : List Char) :
    string (quote s ++ rest) = some (s, rest) := by
  have hquote : quote s ++ rest = '"' :: (s.toList.flatMap escape ++ '"' :: rest) := by
    simp [quote]
  rw [hquote, string, stringBody_quoted]
  simp

end Metatype.Json
