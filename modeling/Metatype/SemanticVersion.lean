import Metatype.Numeral.Width
import Metatype.Text.Quoted

/-!
# Semantic versions

Versions `major.minor.patch` with an optional pre-release after `-` and optional build metadata
after `+`, read from text from left to right.

* `SemanticVersion.parse`: the reader; the first fault met is the one reported.
* `SemanticVersion.Fault.message`: the wording of each fault.
-/

namespace Metatype

/-- A semantic version. Pre-release and build metadata are lists of dot-separated identifiers. -/
structure SemanticVersion where
  major : Nat
  minor : Nat
  patch : Nat
  preRelease : List (List Char)
  build : List (List Char)
  deriving DecidableEq, Repr

namespace SemanticVersion

/-! ## Faults -/

/-- The part of a version that is being read. -/
inductive Part
  | major
  | minor
  | patch
  | preRelease
  | build
  deriving DecidableEq, Repr

/-- What a part is called in messages. -/
def Part.describe : Part → String
  | .major => "major version number"
  | .minor => "minor version number"
  | .patch => "patch version number"
  | .preRelease => "pre-release identifier"
  | .build => "build metadata"

/-- Why a text is not a semantic version. -/
inductive Fault
  /-- A part starts with a character that it cannot hold. -/
  | unexpected (found : Char) (part : Part)
  /-- The text stops where a part or a dot is due. -/
  | truncated (part : Part)
  /-- A character that cannot follow the part before it. -/
  | trailing (found : Char) (part : Part)
  /-- A number of several digits starts with zero. -/
  | leadingZero (part : Part)
  /-- A number needs more than 64 bits. -/
  | tooLarge (part : Part)
  /-- Two dots, or a dot or nothing where an identifier is due. -/
  | emptySegment (part : Part)
  deriving DecidableEq, Repr

/-- The text of a fault. -/
def Fault.message : Fault → String
  | .unexpected c part =>
    "unexpected character " ++ Text.quoted c ++ " while parsing " ++ part.describe
  | .truncated part => "unexpected end of input while parsing " ++ part.describe
  | .trailing c part => "unexpected character " ++ Text.quoted c ++ " after " ++ part.describe
  | .leadingZero part => "invalid leading zero in " ++ part.describe
  | .tooLarge part => "value of " ++ part.describe ++ " exceeds u64::MAX"
  | .emptySegment part => "empty identifier segment in " ++ part.describe

/-! ## Numbers -/

/-- The digits that continue a number whose value so far is `value`. -/
def moreDigits (part : Part) (value : Nat) : List Char → Except Fault (Nat × List Char)
  | [] => .ok (value, [])
  | c :: rest =>
    if c.isDigit then
      if value = 0 then .error (.leadingZero part)
      else
        let next := value * 10 + (c.toNat - '0'.toNat)
        if next < Numeral.twoTo 64 then moreDigits part next rest else .error (.tooLarge part)
    else .ok (value, c :: rest)

/-- A number at the start of the text, with the text after it. -/
def number (part : Part) : List Char → Except Fault (Nat × List Char)
  | [] => .error (.truncated part)
  | c :: rest =>
    if c.isDigit then moreDigits part (c.toNat - '0'.toNat) rest
    else .error (.unexpected c part)

/-- The text after the dot that it must start with. -/
def dot (part : Part) : List Char → Except Fault (List Char)
  | [] => .error (.truncated part)
  | c :: rest => if c = '.' then .ok rest else .error (.trailing c part)

/-! ## Identifiers -/

/-- The characters of an identifier. -/
def isIdentifierChar (c : Char) : Bool := c.isAlphanum || c = '-'

/-- Splits at every dot. -/
def segments : List Char → List (List Char)
  | [] => [[]]
  | c :: rest =>
    if c = '.' then [] :: segments rest
    else
      match segments rest with
      | [] => [[c]]
      | s :: more => (c :: s) :: more

/-- Checks one identifier: it must not be empty, and a numeric pre-release identifier has no
leading zero. -/
def checkSegment (part : Part) (s : List Char) : Except Fault Unit :=
  if s.isEmpty then .error (.emptySegment part)
  else if part = .preRelease ∧ s.all Char.isDigit ∧ 1 < s.length ∧ s.head? = some '0' then
    .error (.leadingZero part)
  else .ok ()

/-- Dot-separated identifiers at the start of the text, with the text after them. -/
def identifiers (part : Part) (s : List Char) : Except Fault (List (List Char) × List Char) := do
  let inside := fun c => isIdentifierChar c || c = '.'
  let found := segments (s.takeWhile inside)
  found.forM (checkSegment part)
  return (found, s.dropWhile inside)

/-! ## The whole version -/

/-- Identifiers after the mark that announces them; without the mark there are none. The part
that was read last goes along, for messages about what follows. -/
def announced (mark : Char) (part : Part) (last : Part) (s : List Char) :
    Except Fault (List (List Char) × Part × List Char) :=
  match s with
  | c :: rest =>
    if c = mark then do
      let (found, rest) ← identifiers part rest
      return (found, part, rest)
    else .ok ([], last, s)
  | [] => .ok ([], last, [])

/-- Reads a version that spans the whole text. -/
def parse (s : List Char) : Except Fault SemanticVersion := do
  let (major, s) ← number .major s
  let s ← dot .major s
  let (minor, s) ← number .minor s
  let s ← dot .minor s
  let (patch, s) ← number .patch s
  let (preRelease, last, s) ← announced '-' .preRelease .patch s
  let (build, last, s) ← announced '+' .build last s
  match s with
  | [] => return ⟨major, minor, patch, preRelease, build⟩
  | c :: _ => .error (.trailing c last)

end SemanticVersion

end Metatype
