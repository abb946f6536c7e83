import Metatype.Numeral.Shortest

/-!
# Floating-point numbers as text

The text of a floating-point constant. Magnitudes from one thousandth up to ten million, and zero,
are written out with at least one digit after the point; all others have one digit before the
point and a power of ten after `E`.

* `Binary.text`: the text of a number of a format.
* `Binary.text_nan`, `Binary.text_zero`: the texts of the exceptional values.
-/

namespace Metatype.Numeral

/-! ## Digits and points -/

/-- The decimal digits of a number, as characters. -/
def digitChars (n : Nat) : List Char := Nat.toDigits 10 n

/-- A decimal written out, with a point and at least one digit on each side of it. -/
def Decimal.positional (d : Decimal) : List Char :=
  let ds := digitChars d.digits
  match d.exponent with
  | .ofNat e => ds ++ List.replicate e '0' ++ ['.', '0']
  | .negSucc e =>
    let places := e + 1
    let padded := List.replicate (places + 1 - ds.length) '0' ++ ds
    padded.take (padded.length - places) ++ '.' :: padded.drop (padded.length - places)

/-- A decimal with one digit before the point, at least one after it, and the power of ten. -/
def Decimal.scientific (d : Decimal) : List Char :=
  let ds := digitChars d.digits
  let exponent := d.exponent + (ds.length - 1 : Nat)
  let tail := if ds.length ≤ 1 then ['0'] else ds.drop 1
  ds.take 1 ++ '.' :: tail ++ 'E' :: (toString exponent).toList

/-! ## Constants -/

/-- Whether a magnitude is written out: zero, or from the double nearest to one thousandth up to,
not including, ten million. -/
def isPlain (r : Ratio) : Bool :=
  match Binary.magnitude? (.ofRatio .double false ⟨1, 1000⟩) with
  | some thousandth => r.num = 0 || (thousandth.le r && !(Ratio.le ⟨10000000, 1⟩ r))
  | none => false

/-- The text of a magnitude. -/
def magnitudeText (format : BinaryFormat) (m : Nat) (e : Int) : List Char :=
  if m = 0 then ['0', '.', '0']
  else
    let d := shortest format m e
    if isPlain (Ratio.scaled m 2 e) then d.positional else d.scientific

/-- The text of a floating-point constant. -/
def Binary.text (format : BinaryFormat) : Binary → String
  | .nan => "NaN"
  | .infinite false => "Infinity"
  | .infinite true => "-Infinity"
  | .finite false m e => String.ofList (magnitudeText format m e)
  | .finite true m e => String.ofList ('-' :: magnitudeText format m e)

theorem Binary.text_nan (format : BinaryFormat) : Binary.nan.text format = "NaN" := rfl

theorem Binary.text_zero (format : BinaryFormat) (e : Int) :
    (Binary.finite false 0 e).text format = "0.0" := rfl

end Metatype.Numeral
