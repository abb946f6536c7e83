/-!
# Rounding a quotient

A quotient of natural numbers to the nearest integer; a half goes to the even neighbour.

* `two_mul_roundDiv_sub_le`, `le_two_mul_roundDiv_add`: the result is at most half a unit away.
-/

namespace Metatype.Numeral

/-- The integer nearest to `num / den`; of two equally near the even one. -/
def roundDiv (num den : Nat) : Nat :=
  let q := num / den
  let r := num % den
  if 2 * r < den then q
  else if den < 2 * r then q + 1
  else q + q % 2

theorem two_mul_roundDiv_sub_le (num den : Nat) :
    2 * (roundDiv num den * den) ≤ 2 * num + den := by
  have h := Nat.div_add_mod' num den
  unfold roundDiv
  dsimp only
  split
  · omega
  · split
    · rw [Nat.add_mul]; omega
    · have hq : num / den % 2 = 0 ∨ num / den % 2 = 1 := by omega
      rcases hq with hq | hq <;> rw [hq, Nat.add_mul] <;> omega

theorem le_two_mul_roundDiv_add (num den : Nat) (hd : 0 < den) :
    2 * num ≤ 2 * (roundDiv num den * den) + den := by
  have h := Nat.div_add_mod' num den
  have hr := Nat.mod_lt num hd
  unfold roundDiv
  dsimp only
  split
  · omega
  · split
    · rw [Nat.add_mul]; omega
    · rw [Nat.add_mul]
      have := Nat.zero_le (num / den % 2 * den)
      omega

end Metatype.Numeral
