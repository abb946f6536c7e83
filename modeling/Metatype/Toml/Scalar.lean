import Metatype.Numeral.Reading
import Metatype.Toml.DateTime

/-!
# Bare values in TOML

Truth values, integers, floating-point numbers, dates and times: the values that are written
without brackets or quotes. A number is floating-point if it has a fraction or an exponent.

* `bareValue?`: the value of a bare word.
* `bareWord`: the bare word at the start of a text.
-/

namespace Metatype.Toml

open Numeral

/-! ## Digits with underscores -/

/-- Digits of a base, each underscore between two of them. -/
def groupedDigits? (isDigit : Char → Bool) : List Char → Option (List Char)
  | [] => none
  | [c] => if isDigit c then some [c] else none
  | c :: '_' :: rest =>
    if isDigit c then (groupedDigits? isDigit rest).map (c :: ·) else none
  | c :: rest => if isDigit c then (groupedDigits? isDigit rest).map (c :: ·) else none

/-- Decimal digits without a zero in front of others. -/
def decimalDigits? (s : List Char) : Option (List Char) :=
  match groupedDigits? Char.isDigit s with
  | some ('0' :: _ :: _) => none
  | found => found

/-- The value of a digit of any base up to sixteen. -/
def digitValue (c : Char) : Nat :=
  if c.isDigit then c.toNat - '0'.toNat else c.toLower.toNat - 'a'.toNat + 10

/-- The number of digits in a base. -/
def natInBase (base : Nat) (ds : List Char) : Nat :=
  ds.foldl (fun n c => n * base + digitValue c) 0

/-- Splits off a sign. -/
def splitSign : List Char → Option Bool × List Char
  | '-' :: s => (some true, s)
  | '+' :: s => (some false, s)
  | s => (none, s)

/-! ## Integers -/

/-- An integer of 64 bits. -/
def ofLong? (i : Int) : Option Value :=
  if fitsSigned 64 i then some (.integer i) else none

/-- An integer with a base mark, which has no sign, or a decimal one. -/
def integer? (s : List Char) : Option Value :=
  match s with
  | '0' :: 'x' :: ds =>
    (groupedDigits? (fun c => c.isDigit || ('a' ≤ c && c ≤ 'f') || ('A' ≤ c && c ≤ 'F')) ds).bind
      fun ds => ofLong? (natInBase 16 ds)
  | '0' :: 'o' :: ds =>
    (groupedDigits? (fun c => '0' ≤ c && c ≤ '7') ds).bind fun ds => ofLong? (natInBase 8 ds)
  | '0' :: 'b' :: ds =>
    (groupedDigits? (fun c => c = '0' || c = '1') ds).bind fun ds => ofLong? (natInBase 2 ds)
  | s =>
    let (sign, ds) := splitSign s
    (decimalDigits? ds).bind fun ds =>
      let n := (natOfChars ds : Int)
      ofLong? (if sign = some true then -n else n)

/-! ## Floating point -/

/-- The exponent after the letter `e`. -/
def exponent? (s : List Char) : Option Int :=
  let (sign, ds) := splitSign s
  (groupedDigits? Char.isDigit ds).map fun ds =>
    let n := (natOfChars ds : Int)
    if sign = some true then -n else n

/-- Whether a character announces an exponent. -/
def isExponentMark (c : Char) : Bool := c = 'e' || c = 'E'

/-- The digits after a point; none without a point. -/
def fractionDigits? : List Char → Option (List Char)
  | [] => some []
  | '.' :: ds => groupedDigits? Char.isDigit ds
  | _ => none

/-- A number with a fraction, an exponent or both. -/
def decimalFloat? (negative : Bool) (s : List Char) : Option Value := do
  if !s.any fun c => c = '.' || isExponentMark c then none
  let mantissa := s.takeWhile fun c => !isExponentMark c
  let whole ← decimalDigits? (mantissa.takeWhile (· ≠ '.'))
  let fraction ← fractionDigits? (mantissa.dropWhile (· ≠ '.'))
  let exponent ←
    match s.dropWhile fun c => !isExponentMark c with
    | [] => some 0
    | _ :: digits => exponent? digits
  match Binary.ofDecimal negative (natOfChars (whole ++ fraction)) (exponent - fraction.length) with
  | .infinite false => none
  | x => return .float x

/-- A floating-point number. -/
def float? (s : List Char) : Option Value :=
  let (sign, magnitude) := splitSign s
  let negative := sign = some true
  match magnitude with
  | ['i', 'n', 'f'] => some (.float (.infinite negative))
  | ['n', 'a', 'n'] => some (.float .nan)
  | _ => decimalFloat? negative magnitude

/-! ## Bare words -/

/-- The characters of bare words. -/
def isBareChar (c : Char) : Bool :=
  c.isAlphanum || c = '+' || c = '-' || c = '_' || c = '.' || c = ':'

/-- Whether a text goes on with a time, after a blank. -/
def timeFollows : List Char → Bool
  | ' ' :: h₁ :: h₂ :: ':' :: _ => h₁.isDigit && h₂.isDigit
  | _ => false

/-- The bare word at the start of a text, with the characters after it. A date goes on after a
blank if a time follows. -/
def bareWord (s : List Char) : List Char × List Char :=
  let word := s.takeWhile isBareChar
  let rest := s.dropWhile isBareChar
  match date? word with
  | some (_, []) =>
    if timeFollows rest then
      (word ++ ' ' :: (rest.drop 1).takeWhile isBareChar, (rest.drop 1).dropWhile isBareChar)
    else (word, rest)
  | _ => (word, rest)

/-- The value of a bare word. -/
def bareValue? (word : List Char) : Option Value :=
  match word with
  | ['t', 'r', 'u', 'e'] => some (.boolean true)
  | ['f', 'a', 'l', 's', 'e'] => some (.boolean false)
  | _ => (dateTime? isClockOffset word).map .dateTime <|> integer? word <|> float? word

end Metatype.Toml
