import Metatype.Numeral.Layout

/-!
# Constants

Values known at compile time: those of constant fields, of annotation elements and of defaults.

* `Constant.text`: a constant as text.
* `Constant.string?`: the text of a string constant.
-/

namespace Metatype

open Numeral

/-- A compile-time constant. -/
inductive Constant
  | boolean (b : Bool)
  | byte (n : Int8)
  | character (c : Char)
  | short (n : Int16)
  | int (n : Int32)
  | long (n : Int64)
  | float (x : Binary)
  | double (x : Binary)
  | string (s : String)
  /-- A class literal, by the name of the class. -/
  | classLiteral (name : String)
  /-- A constant of an enumeration. -/
  | enumerator (typeName constant : String)
  | array (items : List Constant)
  deriving Repr, Inhabited

namespace Constant

mutual

/-- A constant as text. Class literals and enumeration constants are shown by name, arrays between
brackets. -/
def text : Constant → String
  | .boolean b => if b then "true" else "false"
  | .byte n => toString n.toInt
  | .character c => c.toString
  | .short n => toString n.toInt
  | .int n => toString n.toInt
  | .long n => toString n.toInt
  | .float x => x.text .single
  | .double x => x.text .double
  | .string s => s
  | .classLiteral name => name
  | .enumerator _ constant => constant
  | .array items => "[" ++ ", ".intercalate (texts items) ++ "]"

/-- The texts of the items of an array. -/
def texts : List Constant → List String
  | [] => []
  | c :: rest => c.text :: texts rest

end

/-- The text of a string constant. -/
def string? : Constant → Option String
  | .string s => some s
  | _ => none

end Constant

end Metatype
