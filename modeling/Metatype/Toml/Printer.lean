import Metatype.Toml.Text

/-!
# Writing TOML

The parts of a document as text: strings, arrays of strings, entries and headers. A string is written
in the plainest way that can hold it: between double quotes within a line if it needs no escapes,
between single quotes if that spares it escapes, and over several lines if it has line ends or quotes
of both kinds. Arrays of two or more strings take a line for each.

* `Quoting.write`: a string in one of four ways.
* `Quoting.best`, `quote`: the way that is taken for a string, and the string in that way.
* `stringEntry`, `boolEntry`, `stringsEntry`: lines with a key and its value.
-/

namespace Metatype.Toml

/-! ## Escapes -/

/-- A hexadecimal digit in upper case. -/
def hexLetter (n : Nat) : Char := (Nat.digitChar n).toUpper

/-- A character as it is written inside a string with escapes. -/
def writeChar (c : Char) : List Char :=
  match c with
  | '"' => ['\\', '"']
  | '\\' => ['\\', '\\']
  | '\x08' => ['\\', 'b']
  | '\t' => ['\\', 't']
  | '\n' => ['\\', 'n']
  | '\x0c' => ['\\', 'f']
  | '\r' => ['\\', 'r']
  | c =>
    if c.toNat < 0x20 ∨ c.toNat = 0x7f then
      ['\\', 'u', '0', '0', hexLetter (c.toNat / 16), hexLetter (c.toNat % 16)]
    else [c]

/-- A text inside a string with escapes over several lines. Line ends stay as they are, and so do
quotes unless there are two already; `quotes` is the number of those right before the text. -/
def writeLines (quotes : Nat) : List Char → List Char
  | [] => []
  | c :: rest =>
    if c = '"' then
      if quotes < 2 then '"' :: writeLines (quotes + 1) rest else '\\' :: '"' :: writeLines 0 rest
    else if c = '\n' then '\n' :: writeLines 0 rest
    else writeChar c ++ writeLines 0 rest

/-! ## Strings -/

/-- The ways to write a string: with escapes or as it is, within a line or over several lines. -/
inductive Quoting
  | basic
  | literal
  | basicLines
  | literalLines
  deriving DecidableEq, Repr

namespace Quoting

/-- What stands at both ends of a string. -/
def mark : Quoting → List Char
  | .basic => ['"']
  | .literal => ['\'']
  | .basicLines => ['"', '"', '"']
  | .literalLines => ['\'', '\'', '\'']

/-- What stands between the marks. A line end right after the first mark does not count, so that one
is put before a text with line ends. -/
def body (q : Quoting) (s : List Char) : List Char :=
  let start := if s.contains '\n' then ['\n'] else []
  match q with
  | .basic => s.flatMap writeChar
  | .literal => s
  | .basicLines => start ++ writeLines 0 s
  | .literalLines => start ++ s

/-- A string. -/
def write (q : Quoting) (s : List Char) : List Char := q.mark ++ q.body s ++ q.mark

/-- Whether a text has a quote three times in a row. -/
def hasThree (quote : Char) : List Char → Bool
  | a :: b :: c :: rest =>
    (a = quote && b = quote && c = quote) || hasThree quote (b :: c :: rest)
  | _ => false

/-- Whether a text has characters that can only be written with escapes. -/
def needsEscapes (s : List Char) : Bool := s.any fun c => isControl c && c ≠ '\n'

/-- The way in which a text is written: the first one that spares it escapes, and with escapes if
there is none. -/
def best (s : List Char) : Quoting :=
  let hasLines := s.contains '\n'
  let isPlain := !needsEscapes s
  if isPlain && !hasLines && !s.contains '\\' && !s.contains '"' then .basic
  else if isPlain && !hasLines && !s.contains '\'' then .literal
  else if isPlain && !s.contains '\\' && !hasThree '"' s then .basicLines
  else if isPlain && !hasThree '\'' s then .literalLines
  else if hasLines then .basicLines
  else .basic

end Quoting

/-- A string between quotes. -/
def quote (s : String) : List Char := (Quoting.best s.toList).write s.toList

/-! ## Entries and headers -/

/-- An array of strings. -/
def writeStrings : List String → List Char
  | [] => ['[', ']']
  | [s] => '[' :: quote s ++ [']']
  | items => ['[', '\n'] ++ (items.flatMap fun s => "    ".toList ++ quote s ++ [',', '\n']) ++ [']']

/-- A line with a key and its value. -/
def entry (key : String) (value : List Char) : List Char := key.toList ++ " = ".toList ++ value ++ ['\n']

/-- A line with a string. -/
def stringEntry (key s : String) : List Char := entry key (quote s)

/-- A line with a truth value. -/
def boolEntry (key : String) (b : Bool) : List Char :=
  entry key (if b then "true".toList else "false".toList)

/-- An entry with an array of strings. -/
def stringsEntry (key : String) (items : List String) : List Char := entry key (writeStrings items)

/-- The header of a table. -/
def tableHeader (key : String) : List Char := '[' :: key.toList ++ [']', '\n']

/-- The header of a table in an array. -/
def itemHeader (key : String) : List Char := ['[', '['] ++ key.toList ++ [']', ']', '\n']

end Metatype.Toml
