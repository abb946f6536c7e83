/-!
# Reading UTF-8

Bytes as text, and bytes that are no text.

* `decode?_toUTF8`: text is read back from its bytes.
-/

namespace Metatype.Text

/-- The text of bytes that are UTF-8. -/
def decode? (bytes : ByteArray) : Option String := String.fromUTF8? bytes

theorem decode?_toUTF8 (s : String) : decode? s.toUTF8 = some s := by
  simp only [decode?, String.fromUTF8?, String.toUTF8_eq_toByteArray, dif_pos s.isValidUTF8]
  rfl

end Metatype.Text
