import Metatype.Revision
import Metatype.Text.Case

/-!
# Property keys

The key under which a member is configured. An identifier cannot hold every character of a key,
so some characters are written in a coded form: `__` stands for `_`, `_` for `.`, `$_$` for `-`
(since revision 1.4), `$$` for `$`, and any other `$` for nothing.

* `PropertyKey.pieces`: the coded forms and plain characters of an identifier, longest form first.
* `PropertyKey.ofIdentifier`: the key and the revision it needs.
* `shorthandKey`: the key of an annotation with a single element, made from its simple name.
-/

namespace Metatype

/-! ## Identifiers in pieces -/

/-- A piece of an identifier that contributes to the key as a whole. -/
inductive PropertyKey.Piece
  | underscore
  | dot
  | hyphen
  | dollar
  | nothing
  | plain (c : Char)
  deriving DecidableEq, Repr

/-- What a piece contributes to the key. -/
def PropertyKey.Piece.text : Piece → List Char
  | .underscore => ['_']
  | .dot => ['.']
  | .hyphen => ['-']
  | .dollar => ['$']
  | .nothing => []
  | .plain c => [c]

/-- Cuts an identifier into pieces from left to right. -/
def PropertyKey.pieces : List Char → List Piece
  | '_' :: '_' :: rest => .underscore :: pieces rest
  | '_' :: rest => .dot :: pieces rest
  | '$' :: '_' :: '$' :: rest => .hyphen :: pieces rest
  | '$' :: '$' :: rest => .dollar :: pieces rest
  | '$' :: rest => .nothing :: pieces rest
  | c :: rest => .plain c :: pieces rest
  | [] => []

/-! ## Keys -/

/-- A key, with the revision that introduced the coded forms it was written with. -/
structure PropertyKey where
  key : String
  requires : Option Revision
  deriving DecidableEq, Repr

/-- The key that an identifier stands for. The hyphen came with revision 1.4. -/
def PropertyKey.ofIdentifier (name : String) : PropertyKey :=
  let found := pieces name.toList
  { key := String.ofList (found.flatMap Piece.text)
    requires := if .hyphen ∈ found then some .v1_4 else none }

/-! ## Shorthand keys -/

/-- Lower-cases, and puts a dot before each capital that follows a small letter. `afterLower` tells
whether the character before was a small letter. -/
def shorthandChars (afterLower : Bool) : List Char → List Char
  | [] => []
  | c :: rest =>
    if Text.isUpper c then
      (if afterLower then ['.'] else []) ++ Text.lower c ++ shorthandChars false rest
    else c :: shorthandChars (Text.isLower c) rest

/-- The key of an annotation's only element, from the annotation's simple name: `MaxSize` gives
`max.size`. -/
def shorthandKey (simpleName : String) : String :=
  String.ofList (shorthandChars false simpleName.toList)

end Metatype
