/-!
# Blanks

The characters with the property White_Space, and text without the blanks around it.

* `isBlank_of_isWhitespace`: the ASCII blanks of the core library are blanks.
* `trim_eq_self_of_all`: text without blanks is kept.
-/

namespace Metatype.Text

/-- The property White_Space. -/
def isBlank (c : Char) : Bool :=
  let n := c.toNat
  (9 ≤ n && n ≤ 13) || n == 0x20 || n == 0x85 || n == 0xa0 || n == 0x1680 ||
    (0x2000 ≤ n && n ≤ 0x200a) || n == 0x2028 || n == 0x2029 || n == 0x202f || n == 0x205f ||
    n == 0x3000

/-- Text without the blanks it begins with. -/
def trimStart (s : List Char) : List Char := s.dropWhile isBlank

/-- Text without the blanks it begins and ends with. -/
def trim (s : List Char) : List Char := (trimStart (trimStart s).reverse).reverse

theorem isBlank_of_isWhitespace {c : Char} (h : c.isWhitespace = true) : isBlank c = true := by
  simp only [Char.isWhitespace, Bool.or_eq_true, decide_eq_true_eq] at h
  rcases h with ((h | h) | h) | h <;> subst h <;> rfl

theorem trimStart_eq_self_of_all {s : List Char} (h : ∀ c ∈ s, isBlank c = false) :
    trimStart s = s := by
  cases s with
  | nil => rfl
  | cons c s => simp [trimStart, h c (by simp)]

theorem trim_eq_self_of_all {s : List Char} (h : ∀ c ∈ s, isBlank c = false) : trim s = s := by
  rw [trim, trimStart_eq_self_of_all h, trimStart_eq_self_of_all (by simpa using h),
    List.reverse_reverse]

end Metatype.Text
