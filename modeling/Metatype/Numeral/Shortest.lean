import Metatype.Numeral.Binary

/-!
# Shortest decimal digits

The decimal number with the fewest digits that rounds to a given floating-point number, and among
those the nearest one.

The reals that round to `m · 2 ^ e` form an interval, with its ends if `m` is even. For one digit,
two digits and so on, the two neighbours of the number on that decimal grid are tested against the
interval; the first grid with a hit gives the digits. Of two hits the nearer is taken, and the
upper one if they are equally near.

* `shortest`: digits and power of ten of a positive number.
* `shortest_no_trailing_zero`: the last digit is not zero.
-/

namespace Metatype.Numeral

/-- `digits · 10 ^ exponent`. -/
structure Decimal where
  digits : Nat
  exponent : Int
  deriving DecidableEq, Repr

/-! ## The interval of a number -/

/-- The reals that round to one number. All three values are in units of `2 ^ unit`. -/
structure Interval where
  low : Nat
  value : Nat
  high : Nat
  unit : Int
  closed : Bool
  deriving DecidableEq, Repr

/-- The interval of `m · 2 ^ e`. Below a power of two the grid is twice as fine, except at the
least exponent. -/
def Interval.of (format : BinaryFormat) (m : Nat) (e : Int) : Interval :=
  let narrow := m = twoTo (format.precision - 1) ∧ format.minExponent < e
  { low := if narrow then 4 * m - 1 else 4 * m - 2
    value := 4 * m
    high := 4 * m + 2
    unit := e - 2
    closed := m % 2 = 0 }

/-! ## Testing grids -/

/-- Whether a decimal lies in the interval. -/
def Interval.holds (i : Interval) (d : Decimal) : Bool :=
  let x := Ratio.scaled d.digits 10 d.exponent
  let low := Ratio.scaled i.low 2 i.unit
  let high := Ratio.scaled i.high 2 i.unit
  if i.closed then low.le x && x.le high else !x.le low && !high.le x

/-- The neighbour of the value on the grid of `10 ^ exponent` that the interval holds, if any. -/
def Interval.onGrid (i : Interval) (exponent : Int) : Option Decimal :=
  let cut := (Ratio.scaled i.value 2 i.unit).shiftDown 10 exponent
  let below : Decimal := ⟨cut.num / cut.den, exponent⟩
  let above : Decimal := ⟨cut.num / cut.den + 1, exponent⟩
  match i.holds below, i.holds above with
  | true, true => if 2 * (cut.num % cut.den) < cut.den then some below else some above
  | true, false => some below
  | false, true => some above
  | false, false => none

/-- Tries the grids from `10 ^ exponent` down, `fuel` of them. The last one tried is taken whether
it has a hit or not. -/
def Interval.search (i : Interval) (exponent : Int) : Nat → Decimal
  | 0 =>
    let cut := (Ratio.scaled i.value 2 i.unit).shiftDown 10 exponent
    ⟨cut.num / cut.den, exponent⟩
  | fuel + 1 =>
    match i.onGrid exponent with
    | some d => d
    | none => i.search (exponent - 1) fuel

/-! ## Digits -/

/-- The largest `k` with `10 ^ k ≤ r`, found upward from a lower bound. -/
def Ratio.decadeFrom (r : Ratio) (k : Int) : Nat → Int
  | 0 => k
  | fuel + 1 => if (Ratio.scaled 1 10 (k + 1)).le r then r.decadeFrom (k + 1) fuel else k

/-- The largest `k` with `10 ^ k ≤ r`, for a positive quotient: a bound from the binary logarithm,
made exact. -/
def Ratio.decade (r : Ratio) : Int := r.decadeFrom (r.log2 * 30103 / 100000 - 1) 4

/-- Moves the zeros at the end of the digits into the exponent. -/
def Decimal.stripZeros (digits : Nat) (exponent : Int) : Decimal :=
  if h : digits ≠ 0 ∧ digits % 10 = 0 then stripZeros (digits / 10) (exponent + 1)
  else ⟨digits, exponent⟩
termination_by digits
decreasing_by omega

/-- The shortest digits of `m · 2 ^ e`, for positive `m`. -/
def shortest (format : BinaryFormat) (m : Nat) (e : Int) : Decimal :=
  let found := (Interval.of format m e).search (Ratio.scaled m 2 e).decade 17
  Decimal.stripZeros found.digits found.exponent

theorem Decimal.stripZeros_mod_ten (digits : Nat) (exponent : Int) (h : 0 < digits) :
    (Decimal.stripZeros digits exponent).digits % 10 ≠ 0 := by
  fun_induction Decimal.stripZeros digits exponent with
  | case1 digits exponent hd ih => exact ih (by omega)
  | case2 digits exponent hd => simp only; omega

theorem shortest_no_trailing_zero (format : BinaryFormat) (m : Nat) (e : Int)
    (h : 0 < ((Interval.of format m e).search (Ratio.scaled m 2 e).decade 17).digits) :
    (shortest format m e).digits % 10 ≠ 0 :=
  Decimal.stripZeros_mod_ten _ _ h

end Metatype.Numeral
