import Metatype.Toml.Outline
import Metatype.Toml.Scalar
import Metatype.Toml.Text

/-!
# Reading TOML

A reader for TOML documents: lines with a header, a key and its value, or neither. Arrays and
inline tables may be nested `maxDepth` deep, and keys have no more parts than that.

* `Document.parse`: the root table of a document.
-/

namespace Metatype.Toml

/-! ## Comments and line ends -/

/-- Leaves out a comment. A comment holds no control characters. -/
def skipComment (s : List Char) : Option (List Char) :=
  match s with
  | '#' :: rest =>
    if (rest.takeWhile (· ≠ '\n')).any isControl then none else some (rest.dropWhile (· ≠ '\n'))
  | s => some s

/-- Leaves out blanks, line ends and comments. `fuel` bounds their number. -/
def skipLines : Nat → List Char → Option (List Char)
  | 0, s => some s
  | fuel + 1, s =>
    match skipSpace s with
    | '\n' :: rest => skipLines fuel rest
    | '#' :: rest => (skipComment ('#' :: rest)).bind (skipLines fuel)
    | s => some s

/-- The next line, if only blanks and a comment are left of this one. -/
def endOfLine (s : List Char) : Option (List Char) :=
  match skipComment (skipSpace s) with
  | some ('\n' :: rest) => some rest
  | some [] => some []
  | _ => none

/-! ## Arrays and inline tables -/

/-- The items of an array up to and with its closing bracket. `one` reads an item. -/
def items (one : List Char → Option (Value × List Char)) :
    Nat → List Char → Option (List Value × List Char)
  | 0, _ => none
  | fuel + 1, s => do
    match ← skipLines s.length s with
    | ']' :: rest => return ([], rest)
    | s =>
      let (v, s) ← one s
      match ← skipLines s.length s with
      | ']' :: rest => return ([v], rest)
      | ',' :: rest =>
        let (vs, rest) ← items one fuel rest
        return (v :: vs, rest)
      | _ => none

/-- A key and its value. -/
def pair (one : List Char → Option (Value × List Char)) (s : List Char) :
    Option ((List String × Value) × List Char) := do
  let (key, s) ← dottedKey (skipSpace s)
  match skipSpace s with
  | '=' :: rest =>
    let (v, rest) ← one (skipSpace rest)
    return ((key, v), rest)
  | _ => none

/-- The pairs of an inline table that is not empty, up to and with its closing brace. -/
def pairs (one : List Char → Option (Value × List Char)) :
    Nat → List Char → Option (List (List String × Value) × List Char)
  | 0, _ => none
  | fuel + 1, s => do
    let (p, s) ← pair one s
    match skipSpace s with
    | '\x7d' :: rest => return ([p], rest)
    | ',' :: rest =>
      let (ps, rest) ← pairs one fuel rest
      return (p :: ps, rest)
    | _ => none

/-- The table of pairs set one after another. -/
def tableOfPairs (ps : List (List String × Value)) : Option Value :=
  (ps.foldlM (fun entries p => Outline.insert? p.2 p.1 entries) []).map fun entries =>
    .table (Outline.toEntries entries)

/-- An array after its opening bracket. -/
def array (one : List Char → Option (Value × List Char)) (s : List Char) :
    Option (Value × List Char) :=
  (items one (s.length + 1) s).map fun found => (.array found.1, found.2)

/-- An inline table after its opening brace. -/
def inlineTable (one : List Char → Option (Value × List Char)) (s : List Char) :
    Option (Value × List Char) :=
  match skipSpace s with
  | '\x7d' :: rest => some (.table [], rest)
  | s => do
    let (ps, rest) ← pairs one s.length s
    return (← tableOfPairs ps, rest)

/-! ## Values -/

/-- A value without brackets. -/
def scalarValue (s : List Char) : Option (Value × List Char) :=
  match s with
  | '"' :: _ => (anyString s).map fun found => (.string found.1, found.2)
  | '\'' :: _ => (anyString s).map fun found => (.string found.1, found.2)
  | s =>
    let (word, rest) := bareWord s
    (bareValue? word).map fun v => (v, rest)

/-- A value with arrays and inline tables nested at most `depth` deep. -/
def value : (depth : Nat) → List Char → Option (Value × List Char)
  | 0, s => scalarValue s
  | depth + 1, s =>
    match s with
    | '[' :: rest => array (value depth) rest
    | '\x7b' :: rest => inlineTable (value depth) rest
    | s => scalarValue s

/-! ## Statements -/

/-- A line of a document. -/
inductive Statement
  | table (path : List String)
  | item (path : List String)
  | pair (path : List String) (v : Value)
  deriving Repr

/-- The key of a header, up to and with its closing brackets. -/
def header (close : List Char) (s : List Char) : Option (List String × List Char) := do
  let (path, s) ← dottedKey (skipSpace s)
  let s := skipSpace s
  if close.isPrefixOf s then some (path, s.drop close.length) else none

/-- A statement at the start of a line. -/
def statement (s : List Char) : Option (Statement × List Char) :=
  match s with
  | '[' :: '[' :: rest => (header [']', ']'] rest).map fun found => (.item found.1, found.2)
  | '[' :: rest => (header [']'] rest).map fun found => (.table found.1, found.2)
  | s => (pair (value maxDepth) s).map fun found => (.pair found.1.1 found.1.2, found.2)

/-- The statements of a text. `fuel` bounds the number of lines. -/
def statements : Nat → List Char → Option (List Statement)
  | 0, s => if s.isEmpty then some [] else none
  | fuel + 1, s =>
    match skipSpace s with
    | [] => some []
    | '\n' :: rest => statements fuel rest
    | '#' :: rest => (endOfLine ('#' :: rest)).bind (statements fuel)
    | s => do
      let (found, rest) ← statement s
      let rest ← endOfLine rest
      return found :: (← statements fuel rest)

/-! ## Documents -/

/-- A document under construction: its entries, and the path of the table that is open. -/
structure Document where
  entries : Outline.Entries := []
  path : List String := []

namespace Document

/-- Takes a statement into a document. -/
def add? (d : Document) (s : Statement) : Option Document :=
  match s with
  | .table path => do
    let key ← path.getLast?
    return ⟨← Outline.within? (Outline.openTable? key) path.dropLast d.entries, path⟩
  | .item path => do
    let key ← path.getLast?
    return ⟨← Outline.within? (Outline.openItem? key) path.dropLast d.entries, path⟩
  | .pair path v => do
    return { d with entries := ← Outline.within? (Outline.insert? v path) d.path d.entries }

/-- The text without a byte order mark, with a line feed at the end of each line. -/
def normalize (s : List Char) : List Char :=
  let rec lineFeeds : List Char → List Char
    | '\r' :: '\n' :: rest => '\n' :: lineFeeds rest
    | c :: rest => c :: lineFeeds rest
    | [] => []
  match s with
  | '\ufeff' :: rest => lineFeeds rest
  | s => lineFeeds s

/-- The root table of a document. It may not be one that stands for a date or time. -/
def parse (text : String) : Option (List (String × Value)) := do
  let s := normalize text.toList
  let found ← statements (s.length + 1) s
  let d ← found.foldlM add? {}
  match ← (Value.table (Outline.toEntries d.entries)).settle? with
  | .table entries => some entries
  | _ => none

end Document

end Metatype.Toml
