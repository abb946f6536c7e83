/-!
# Widths of integers

Integers that fit a number of bits.

* `fitsSigned`: with one of the bits for the sign.
-/

namespace Metatype.Numeral

/-- The number of values of so many bits. -/
def twoTo (bits : Nat) : Nat := Nat.pow 2 bits

/-- Whether an integer fits so many bits, one of them for its sign. -/
def fitsSigned (bits : Nat) (i : Int) : Bool :=
  -(twoTo (bits - 1) : Int) ≤ i ∧ i < twoTo (bits - 1)

end Metatype.Numeral
