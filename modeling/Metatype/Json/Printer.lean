import Metatype.Json.Basic

/-!
# Writing JSON

JSON values as text, in one line or spread over lines with two spaces per level. Quotes,
backslashes and control characters are escaped, all other characters stand for themselves.

* `Value.compact`, `Value.pretty`: the two forms.
-/

namespace Metatype.Json

/-! ## Strings -/

/-- The hexadecimal digit of a number below sixteen. -/
def hexChar (n : Nat) : Char := Nat.digitChar n

/-- A character as it is written inside a string. -/
def escape (c : Char) : List Char :=
  match c with
  | '"' => ['\\', '"']
  | '\\' => ['\\', '\\']
  | '\x08' => ['\\', 'b']
  | '\t' => ['\\', 't']
  | '\n' => ['\\', 'n']
  | '\x0c' => ['\\', 'f']
  | '\r' => ['\\', 'r']
  | c =>
    if c.toNat < 0x20 then ['\\', 'u', '0', '0', hexChar (c.toNat / 16), hexChar (c.toNat % 16)]
    else [c]

/-- A string between quotes. -/
def quote (s : String) : List Char := '"' :: s.toList.flatMap escape ++ ['"']

/-! ## Numbers -/

/-- Digits as characters. -/
def digitText (ds : List (Fin 10)) : List Char := ds.map fun (d : Fin 10) => Nat.digitChar d.val

/-- An integer in decimal digits. -/
def integerText (i : Int) : List Char :=
  (if i < 0 then ['-'] else []) ++ digitText (digitsOf i.natAbs)

/-- A number as text. -/
def Number.text : Number → List Char
  | .integer i => integerText i
  | .decimal negative whole fraction exponent =>
    (if negative then ['-'] else []) ++ digitText whole ++
      (if fraction.isEmpty then [] else '.' :: digitText fraction) ++
      (if exponent = 0 then [] else 'e' :: integerText exponent)

/-! ## One line -/

mutual

/-- A value without any blanks. -/
def Value.compactChars : Value → List Char
  | .null => "null".toList
  | .bool true => "true".toList
  | .bool false => "false".toList
  | .number n => n.text
  | .string s => quote s
  | .array items => '[' :: compactItems items ++ [']']
  | .object members => '\x7b' :: compactMembers members ++ ['\x7d']

/-- Items between commas. -/
def compactItems : List Value → List Char
  | [] => []
  | [v] => v.compactChars
  | v :: rest => v.compactChars ++ ',' :: compactItems rest

/-- Members between commas. -/
def compactMembers : List (String × Value) → List Char
  | [] => []
  | [(k, v)] => quote k ++ ':' :: v.compactChars
  | (k, v) :: rest => quote k ++ ':' :: v.compactChars ++ ',' :: compactMembers rest

end

/-- The value in one line. -/
def Value.compact (v : Value) : String := String.ofList v.compactChars

/-! ## Several lines -/

/-- A new line, indented to a level. -/
def newline (level : Nat) : List Char := '\n' :: List.replicate (2 * level) ' '

mutual

/-- A value that starts at a level of indentation. -/
def Value.prettyChars (level : Nat) : Value → List Char
  | .array [] => ['[', ']']
  | .array items => '[' :: prettyItems (level + 1) items ++ newline level ++ [']']
  | .object [] => ['\x7b', '\x7d']
  | .object members =>
    '\x7b' :: prettyMembers (level + 1) members ++ newline level ++ ['\x7d']
  | v => v.compactChars

/-- Items on lines of their own. -/
def prettyItems (level : Nat) : List Value → List Char
  | [] => []
  | [v] => newline level ++ v.prettyChars level
  | v :: rest => newline level ++ v.prettyChars level ++ ',' :: prettyItems level rest

/-- Members on lines of their own. -/
def prettyMembers (level : Nat) : List (String × Value) → List Char
  | [] => []
  | [(k, v)] => newline level ++ quote k ++ ':' :: ' ' :: v.prettyChars level
  | (k, v) :: rest =>
    newline level ++ quote k ++ ':' :: ' ' :: v.prettyChars level ++
      ',' :: prettyMembers level rest

end

/-- The value spread over lines. -/
def Value.pretty (v : Value) : String := String.ofList (v.prettyChars 0)

end Metatype.Json
