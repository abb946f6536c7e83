import Metatype.Numeral.Rounding
import Metatype.Numeral.Width

/-!
# Binary floating-point numbers

Numbers `± significand · 2 ^ exponent` of a format with limited significand and exponent, the two
infinities and the value that is not a number. Every result is the exact one rounded to the nearest
number of the format, a tie going to the even significand.

* `Binary.ofBits`: the number with given IEEE 754 bits.
* `Binary.ofRatio`: the nearest number to a quotient.
* `Binary.ofRatio_zero`: the quotient zero gives zero, with the sign asked for.
-/

namespace Metatype.Numeral

/-! ## Formats -/

/-- A binary format: `precision` bits of significand, exponents from `minExponent` to
`maxExponent`, both for the last bit of the significand. -/
structure BinaryFormat where
  precision : Nat
  minExponent : Int
  maxExponent : Int
  deriving DecidableEq, Repr

/-- 32 bits. -/
def BinaryFormat.single : BinaryFormat := ⟨24, -149, 104⟩

/-- 64 bits. -/
def BinaryFormat.double : BinaryFormat := ⟨53, -1074, 971⟩

/-- A floating-point number. -/
inductive Binary
  | nan
  | infinite (negative : Bool)
  | finite (negative : Bool) (significand : Nat) (exponent : Int)
  deriving DecidableEq, Repr

/-! ## Magnitudes as quotients -/

/-- A number that is not negative, written as a quotient. -/
structure Ratio where
  num : Nat
  den : Nat
  deriving DecidableEq, Repr

namespace Ratio

/-- The order of quotients with positive denominators. -/
def le (a b : Ratio) : Bool := a.num * b.den ≤ b.num * a.den

/-- `significand · base ^ exponent`. -/
def scaled (significand base : Nat) (exponent : Int) : Ratio :=
  match exponent with
  | .ofNat e => ⟨significand * Nat.pow base e, 1⟩
  | .negSucc e => ⟨significand, Nat.pow base (e + 1)⟩

/-- A quotient divided by `base ^ exponent`. -/
def shiftDown (r : Ratio) (base : Nat) (exponent : Int) : Ratio :=
  match exponent with
  | .ofNat e => ⟨r.num, r.den * Nat.pow base e⟩
  | .negSucc e => ⟨r.num * Nat.pow base (e + 1), r.den⟩

/-- The product of two quotients. -/
def mul (a b : Ratio) : Ratio := ⟨a.num * b.num, a.den * b.den⟩

/-- The quotient of two quotients. -/
def div (a b : Ratio) : Ratio := ⟨a.num * b.den, a.den * b.num⟩

/-- The largest `k` with `2 ^ k ≤ r`, for a positive quotient. -/
def log2 (r : Ratio) : Int :=
  let k := (r.num.log2 : Int) - r.den.log2
  if (scaled 1 2 k).le r then k else k - 1

end Ratio

namespace Binary

/-! ## Rounding -/

/-- The number of the format nearest to a quotient, with the given sign. -/
def ofRatio (format : BinaryFormat) (negative : Bool) (r : Ratio) : Binary :=
  if r.num = 0 then .finite negative 0 0
  else
    let exponent := max (r.log2 - (format.precision - 1 : Nat)) format.minExponent
    let cut := r.shiftDown 2 exponent
    let rounded := roundDiv cut.num cut.den
    if rounded < twoTo format.precision then
      if exponent ≤ format.maxExponent then .finite negative rounded exponent
      else .infinite negative
    else if exponent + 1 ≤ format.maxExponent then
      .finite negative (twoTo (format.precision - 1)) (exponent + 1)
    else .infinite negative

theorem ofRatio_zero (format : BinaryFormat) (negative : Bool) (den : Nat) :
    ofRatio format negative ⟨0, den⟩ = .finite negative 0 0 := by
  simp [ofRatio]

/-- The number of the format nearest to an integer; zero is not negative. -/
def ofInt (format : BinaryFormat) (i : Int) : Binary :=
  ofRatio format (i < 0) ⟨i.natAbs, 1⟩

/-- The number of a format with these IEEE 754 bits: sign, biased exponent, fraction. -/
def ofBits (format : BinaryFormat) (width : Nat) (bits : Nat) : Binary :=
  let fractionBits := format.precision - 1
  let exponentBits := width - format.precision
  let negative := bits / twoTo (width - 1) % 2 = 1
  let biased := bits / twoTo fractionBits % twoTo exponentBits
  let fraction := bits % twoTo fractionBits
  if biased = twoTo exponentBits - 1 then
    if fraction = 0 then .infinite negative else .nan
  else if biased = 0 then
    if fraction = 0 then .finite negative 0 0 else .finite negative fraction format.minExponent
  else .finite negative (twoTo fractionBits + fraction) (format.minExponent + (biased - 1 : Nat))

/-! ## Parts -/

/-- The magnitude of a finite number as a quotient. -/
def magnitude? : Binary → Option Ratio
  | .finite _ m e => some (Ratio.scaled m 2 e)
  | _ => none

/-- The number rounded to another format. -/
def convert (format : BinaryFormat) : Binary → Binary
  | .finite negative m e => ofRatio format negative (Ratio.scaled m 2 e)
  | x => x

/-- The number with the opposite sign. -/
def neg : Binary → Binary
  | .nan => .nan
  | .infinite negative => .infinite !negative
  | .finite negative m e => .finite (!negative) m e

/-! ## Arithmetic on magnitudes -/

/-- The product with a quotient, rounded. -/
def scaleUp (format : BinaryFormat) (x : Binary) (factor : Ratio) : Binary :=
  match x with
  | .finite negative m e => ofRatio format negative ((Ratio.scaled m 2 e).mul factor)
  | x => x

/-- The quotient by a positive quotient, rounded. -/
def scaleDown (format : BinaryFormat) (x : Binary) (factor : Ratio) : Binary :=
  match x with
  | .finite negative m e => ofRatio format negative ((Ratio.scaled m 2 e).div factor)
  | x => x

end Binary

end Metatype.Numeral
