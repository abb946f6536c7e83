import Metatype.Text.UnprintableTable

/-!
# Characters quoted for messages

How a single character is shown inside a message: between single quotes, with a backslash escape
where it could not be read otherwise.

* `quoted_of_plain_ascii`: a printable ASCII character other than `'` and `\` stands for itself.
-/

namespace Metatype.Text

/-- Whether a character can be shown as it is. -/
def isPrintable (c : Char) : Bool :=
  let n := c.toNat
  if n < 128 then 0x20 ≤ n && n < 0x7f
  else !unprintableRanges.any fun range => range.1 ≤ n && n ≤ range.2

/-- A character as it stands between the quotes. The double quote needs no escape there. -/
def escapedChar (c : Char) : String :=
  match c with
  | '\x00' => "\\0"
  | '\t' => "\\t"
  | '\r' => "\\r"
  | '\n' => "\\n"
  | '\'' => "\\'"
  | '\\' => "\\\\"
  | c =>
    if isPrintable c then c.toString
    else "\\u\x7b" ++ String.ofList (Nat.toDigits 16 c.toNat) ++ "\x7d"

/-- A character between single quotes. -/
def quoted (c : Char) : String := "'" ++ escapedChar c ++ "'"

theorem quoted_of_plain_ascii {c : Char} (h : isPrintable c = true)
    (hq : c ≠ '\'') (hb : c ≠ '\\') : quoted c = "'" ++ c.toString ++ "'" := by
  unfold quoted escapedChar
  split <;> simp_all
  all_goals exact absurd h (by decide)

end Metatype.Text
