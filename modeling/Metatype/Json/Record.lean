import Metatype.Json.Basic

/-!
# Reading records from JSON

Records are written as objects. Keys that a record does not have are ignored, a key of the record
that occurs twice makes the object unreadable. A record may also be written as the array of its
first fields in order.

* `Value.record?`: what is given for each field of a record.
* `mandatory`, `defaulted`, `optional`: a field that must, need not, and need not or may be null.
-/

namespace Metatype.Json

variable {α : Type}

/-! ## Fields -/

/-- What is given for the fields of a record: under its name, or at its position. -/
def Value.record? (fields : List String) : Value → Option (String → Option Value)
  | .object members =>
    if fields.all fun field => (members.filter (·.1 = field)).length ≤ 1 then
      some fun field => members.lookup field
    else none
  | .array items =>
    if items.length ≤ fields.length then some fun field => (fields.zip items).lookup field
    else none
  | _ => none

/-- A field that must be given. -/
def mandatory (given : Option Value) (read : Value → Option α) : Option α := given.bind read

/-- A field with a default. -/
def defaulted (given : Option Value) (fallback : α) (read : Value → Option α) : Option α :=
  match given with
  | none => some fallback
  | some v => read v

/-- A value or null. -/
def nullable (read : Value → Option α) : Value → Option (Option α)
  | .null => some none
  | v => (read v).map some

/-- A field that may be missing or null. -/
def optional (given : Option Value) (read : Value → Option α) : Option (Option α) :=
  defaulted given none (nullable read)

/-! ## Values of fields -/

/-- A truth value. -/
def Value.bool? : Value → Option Bool
  | .bool b => some b
  | _ => none

/-- A string. -/
def Value.string? : Value → Option String
  | .string s => some s
  | _ => none

/-- An integer of so many bits. -/
def Value.signed? (bits : Nat) : Value → Option Int
  | .number (.integer i) => if Numeral.fitsSigned bits i then some i else none
  | _ => none

/-- An integer of 32 bits. -/
def Value.int32? (v : Value) : Option Int32 := (v.signed? 32).map Int32.ofInt

/-- An array, with a reader for its items. -/
def Value.list? (read : Value → Option α) : Value → Option (List α)
  | .array items => items.mapM read
  | _ => none

/-- The name of a case without data: a string, or an object with the name as its only key and null
under it. -/
def Value.caseName? : Value → Option String
  | .string s => some s
  | .object [(name, .null)] => some name
  | _ => none

/-- The name of a case without data, where an empty object may stand in place of the null. -/
def Value.caseNameOrEmpty? : Value → Option String
  | .object [(name, .object [])] => some name
  | v => v.caseName?

/-! ## Writing -/

/-- Null for what is missing. -/
def orNull (write : α → Value) : Option α → Value
  | some a => write a
  | none => .null

/-- A member that is left out if its value is missing. -/
def memberOf (key : String) (write : α → Value) : Option α → List (String × Value)
  | some a => [(key, write a)]
  | none => []

/-- A member that is left out if its list is empty. -/
def memberOfList (key : String) (write : α → Value) (items : List α) : List (String × Value) :=
  if items.isEmpty then [] else [(key, .array (items.map write))]

/-- An integer. -/
def Value.ofInt (i : Int) : Value := .number (.integer i)

/-- An array of strings. -/
def Value.ofStrings (items : List String) : Value := .array (items.map .string)

end Metatype.Json
