import Metatype.Numeral.Reading
import Metatype.Text.Case
import Metatype.Toml.Basic

/-!
# Layers of settings

Settings come in layers, and a later layer overrides an earlier one setting by setting: tables are
merged, any other value is replaced. The case of a key does not count: keys are put in lower case as
layers are merged, except inside of arrays, which are replaced as they are. A key at the root of a
layer may also be a path to a setting further down, such as `extract.nested` or
`extensions[0].marker`.

* `merge`, `overlay`: one value over another, one layer over another.
* `environmentLayer`: the layer of the environment variables.
-/

namespace Metatype

/-- Environment variables with their texts. -/
abbrev Environment := List (String × String)

namespace Toml

open Numeral

/-- The entries of a table; other values have none. -/
def Value.entries : Value → List (String × Value)
  | .table entries => entries
  | _ => []

/-- The items of an array; other values have none. -/
def Value.items : Value → List Value
  | .array items => items
  | _ => []

/-- An empty table, which stands for a value that is not given. -/
def Value.nothing : Value := .table []

/-! ## Merging -/

mutual

/-- One value over another. An empty table changes nothing. -/
def merge (under : Value) : Value → Value
  | .table [] => under
  | .table (e :: rest) => .table (mergeEntries under.entries (e :: rest))
  | v => v

/-- Entries over others, their keys in lower case. Of keys in one table that differ only in their
case the last one counts. This is a choice: programs that keep tables in no order may take any of
them. -/
def mergeEntries (under : List (String × Value)) : List (String × Value) → List (String × Value)
  | [] => under
  | (name, v) :: rest =>
    let key := Text.lowerCase name
    mergeEntries (put under key (merge ((find? under key).getD .nothing) v)) rest

end

/-! ## Paths to settings -/

/-- A step on the way to a setting. -/
inductive Step
  | entry (key : String)
  /-- An item of an array; a negative index counts from its end. -/
  | item (index : Int)
  deriving DecidableEq, Repr

/-- The characters of a key in a path. -/
def isPathChar (c : Char) : Bool := c.isAlphanum || c = '_' || c = '-' || c = ' '

/-- The blanks that may stand around an index. -/
def isIndexBlank (c : Char) : Bool := c = ' ' || c = '\t'

/-- An index in decimal digits, with a sign if it is negative and blanks around it. -/
def index? (s : List Char) : Option Int :=
  let trimmed := ((s.dropWhile isIndexBlank).reverse.dropWhile isIndexBlank).reverse
  match trimmed with
  | '+' :: _ => none
  | s => (intOfChars? s).filter (fitsSigned 64)

/-- The steps of a path after its first key. -/
def steps? (s : List Char) : Option (List Step) :=
  match s with
  | [] => some []
  | '.' :: rest =>
    let key := rest.takeWhile isPathChar
    if key.isEmpty then none
    else (steps? (rest.dropWhile isPathChar)).map (.entry (String.ofList key) :: ·)
  | '[' :: rest =>
    match _after : rest.dropWhile (· ≠ ']') with
    | ']' :: after =>
      (index? (rest.takeWhile (· ≠ ']'))).bind fun i => (steps? after).map (.item i :: ·)
    | _ => none
  | _ => none
termination_by s.length
decreasing_by
  · have := (List.dropWhile_sublist isPathChar (l := rest)).length_le
    simp only [List.length_cons]
    omega
  · have := (List.dropWhile_sublist (· ≠ ']') (l := rest)).length_le
    rw [_after] at this
    simp only [List.length_cons] at this ⊢
    omega

/-- The first key of a path and the steps after it. A text that is no path is a key as a whole. -/
def splitPath (key : String) : String × List Step :=
  let s := key.toList
  let name := s.takeWhile isPathChar
  match steps? (s.dropWhile isPathChar) with
  | some steps => if name.isEmpty then (key, []) else (String.ofList name, steps)
  | none => (key, [])

/-- An array with an item changed. It is made long enough first. -/
def changeItem (change : Value → Value) (index : Int) (items : List Value) : List Value :=
  let i := if 0 ≤ index then index.toNat else items.length - index.natAbs
  (items ++ List.replicate (i + 1 - items.length) Value.nothing).modify i change

/-- A value with another one set at the end of some steps. Tables and arrays are made on the way,
in the place of other values if need be. An item is replaced, an entry is merged. -/
def setBelow (v : Value) : List Step → Value → Value
  | [], under => merge under v
  | .entry name :: rest, under =>
    let key := Text.lowerCase name
    .table (put under.entries key (setBelow v rest ((find? under.entries key).getD .nothing)))
  | [.item i], under => .array (changeItem (fun _ => v) i under.items)
  | .item i :: rest, under => .array (changeItem (setBelow v rest) i under.items)

/-- Entries with a value set at a path. -/
def setPath (entries : List (String × Value)) (path : String) (v : Value) : List (String × Value) :=
  let (name, steps) := splitPath path
  let key := Text.lowerCase name
  put entries key (setBelow v steps ((find? entries key).getD .nothing))

/-- A layer over those below it, one entry of it after another. -/
def overlay (under layer : List (String × Value)) : List (String × Value) :=
  layer.foldl (fun entries e => setPath entries e.1 e.2) under

/-! ## The environment -/

/-- What the names of variables start with that are settings. -/
def variableStart : List Char := "metatype__".toList

/-- A text with a dot for each pair of underscores. -/
def dotsForUnderscores : List Char → List Char
  | '_' :: '_' :: rest => '.' :: dotsForUnderscores rest
  | c :: rest => c :: dotsForUnderscores rest
  | [] => []

/-- The path to the setting that a variable sets. The case of its name does not count. -/
def variablePath? (name : String) : Option String :=
  let s := (Text.lowerCase name).toList
  if variableStart.isPrefixOf s then
    some (String.ofList (dotsForUnderscores (s.drop variableStart.length)))
  else none

/-- The value that the text of a variable stands for: a truth value, an integer of 64 bits, a
number, or the text. -/
def variableValue (text : String) : Value :=
  match Text.lowerCase text with
  | "true" => .boolean true
  | "false" => .boolean false
  | _ =>
    match (intOfChars? text.toList).filter (fitsSigned 64) with
    | some i => .integer i
    | none =>
      match Binary.ofChars? text.toList with
      | some x => .float x
      | none => .string text

/-- The layer of the environment variables. -/
def environmentLayer (environment : Environment) : List (String × Value) :=
  environment.filterMap fun entry =>
    (variablePath? entry.1).map fun path => (path, variableValue entry.2)

end Toml

end Metatype
