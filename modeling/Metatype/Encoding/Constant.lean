import Metatype.Constant
import Metatype.Json.Record

/-!
# Constants in JSON

A constant is an object with one key, which names the kind of the constant.

* `Constant.toJson`, `Constant.ofJson?`: writing and reading.
-/

namespace Metatype.Constant

open Json Numeral

/-! ## Writing -/

mutual

/-- A constant as JSON. -/
def toJson : Constant → Value
  | .boolean b => .object [("boolean", .bool b)]
  | .byte n => .object [("byte", .ofInt n.toInt)]
  | .character c => .object [("char", .string c.toString)]
  | .short n => .object [("short", .ofInt n.toInt)]
  | .int n => .object [("int", .ofInt n.toInt)]
  | .long n => .object [("long", .ofInt n.toInt)]
  | .float x => .object [("float", .ofBinary .single x)]
  | .double x => .object [("double", .ofBinary .double x)]
  | .string s => .object [("string", .string s)]
  | .classLiteral name => .object [("type", .string name)]
  | .enumerator typeName constant =>
    .object [("enum", .object [("type_name", .string typeName), ("constant", .string constant)])]
  | .array items => .object [("array", .array (listToJson items))]

/-- Constants as JSON. -/
def listToJson : List Constant → List Value
  | [] => []
  | c :: rest => c.toJson :: listToJson rest

end

/-! ## Reading -/

/-- A string of one character. -/
def char? (v : Value) : Option Char :=
  match v.string? with
  | some s =>
    match s.toList with
    | [c] => some c
    | _ => none
  | none => none

/-- A number of a floating-point format. -/
def binary? (format : BinaryFormat) : Value → Option Binary
  | .number n => n.toBinary? format
  | _ => none

/-- A constant of an enumeration. -/
def enumerator? (v : Value) : Option Constant := do
  let given ← v.record? ["type_name", "constant"]
  let typeName ← mandatory (given "type_name") Value.string?
  let constant ← mandatory (given "constant") Value.string?
  return .enumerator typeName constant

/-- A constant that is not an array, from its kind and value. -/
def scalar? (kind : String) (v : Value) : Option Constant :=
  match kind with
  | "boolean" => v.bool?.map .boolean
  | "byte" => (v.signed? 8).map fun i => .byte (Int8.ofInt i)
  | "char" => (char? v).map .character
  | "short" => (v.signed? 16).map fun i => .short (Int16.ofInt i)
  | "int" => v.int32?.map .int
  | "long" => (v.signed? 64).map fun i => .long (Int64.ofInt i)
  | "float" => (binary? .single v).map .float
  | "double" => (binary? .double v).map .double
  | "string" => v.string?.map .string
  | "type" => v.string?.map .classLiteral
  | "enum" => enumerator? v
  | _ => none

mutual

/-- The constant that a JSON value stands for. -/
def ofJson? : Value → Option Constant
  | .object [(kind, .array items)] =>
    if kind = "array" then (listOfJson? items).map .array else scalar? kind (.array items)
  | .object [(kind, v)] => scalar? kind v
  | _ => none

/-- The constants that JSON values stand for. -/
def listOfJson? : List Value → Option (List Constant)
  | [] => some []
  | v :: rest =>
    match ofJson? v, listOfJson? rest with
    | some c, some cs => some (c :: cs)
    | _, _ => none

end

end Metatype.Constant
