import Metatype.Numeral.Layout

/-!
# Reading and writing decimals

Decimal text of 64-bit floating point: reading it, rounded once, and writing it positionally
without an exponent.

* `Binary.ofDecimal`: the nearest number to a decimal.
* `Binary.plainText`: the shortest digits, written out in full.
-/

namespace Metatype.Numeral

/-! ## Reading -/

/-- The 64-bit number nearest to `digits · 10 ^ exponent`. Decimals far outside the range are not
computed: they are infinite or zero. -/
def Binary.ofDecimal (negative : Bool) (digits : Nat) (exponent : Int) : Binary :=
  let decade := exponent + (digitChars digits).length
  if digits = 0 ∨ decade < -330 then .finite negative 0 0
  else if 330 < decade then .infinite negative
  else .ofRatio .double negative (Ratio.scaled digits 10 exponent)

/-- The number that decimal digits stand for. -/
def natOfChars (ds : List Char) : Nat := ds.foldl (fun n c => n * 10 + (c.toNat - '0'.toNat)) 0

/-- An integer with an optional sign; at least one digit. -/
def intOfChars? (s : List Char) : Option Int :=
  let (negative, ds) := match s with
    | '-' :: ds => (true, ds)
    | '+' :: ds => (false, ds)
    | ds => (false, ds)
  if ds.isEmpty || !ds.all Char.isDigit then none
  else some (if negative then -(natOfChars ds : Int) else natOfChars ds)

/-- The exponent after the letter `e`, if there is one. -/
def exponentOfChars? : List Char → Option Int
  | [] => some 0
  | c :: rest => if c = 'e' ∨ c = 'E' then intOfChars? rest else none

/-- A magnitude with digits on at least one side of an optional point, and an optional exponent. -/
def Binary.ofMagnitudeChars? (negative : Bool) (s : List Char) : Option Binary :=
  let whole := s.takeWhile Char.isDigit
  let rest := s.dropWhile Char.isDigit
  let (fraction, rest) := match rest with
    | '.' :: rest => (rest.takeWhile Char.isDigit, rest.dropWhile Char.isDigit)
    | rest => ([], rest)
  if whole.isEmpty && fraction.isEmpty then none
  else
    (exponentOfChars? rest).map fun exponent =>
      .ofDecimal negative (natOfChars (whole ++ fraction)) (exponent - fraction.length)

/-- A number with an optional sign, or the name of an exceptional value in any case. -/
def Binary.ofChars? (s : List Char) : Option Binary :=
  let (negative, s) := match s with
    | '-' :: s => (true, s)
    | '+' :: s => (false, s)
    | s => (false, s)
  match String.ofList (s.map Char.toLower) with
  | "inf" | "infinity" => some (.infinite negative)
  | "nan" => some .nan
  | _ => ofMagnitudeChars? negative s

/-! ## Writing -/

/-- A decimal in full: no point where there is no fraction. -/
def Decimal.full (d : Decimal) : List Char :=
  let ds := digitChars d.digits
  match d.exponent with
  | .ofNat e => ds ++ List.replicate e '0'
  | .negSucc _ => d.positional

/-- The text of a 64-bit number in full. -/
def Binary.plainText : Binary → String
  | .nan => "NaN"
  | .infinite false => "inf"
  | .infinite true => "-inf"
  | .finite negative m e =>
    let digits := if m = 0 then ['0'] else (shortest .double m e).full
    String.ofList (if negative then '-' :: digits else digits)

/-- Whether a number is equal to zero. -/
def Binary.isZero : Binary → Bool
  | .finite _ m _ => m = 0
  | _ => false

end Metatype.Numeral
