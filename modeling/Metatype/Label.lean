import Metatype.Text.Blank
import Metatype.Text.Case

/-!
# Labels

A readable label for an identifier: `maxRetryCount` gives `Max retry count`. The marks `_ $ - .`
separate words, a single capital starts a word and is lower-cased, and a run of capitals is a word
of its own that keeps its case. The first character of the label is upper-cased.

* `label`: the label of an identifier.
-/

namespace Metatype

namespace Label

/-- The marks that separate words. -/
def isSeparator (c : Char) : Bool := c = '_' || c = '$' || c = '-' || c = '.'

/-- Whether the text so far ends inside a word once `new` is written after it. -/
def insideAfter (inside : Bool) (new : List Char) : Bool :=
  match new.getLast? with
  | some c => !Text.isBlank c
  | none => inside

/-- The space due before a new word. -/
def gap (inside : Bool) : List Char := if inside then [' '] else []

/-- Whether the text goes on with a capital. -/
def startsUpper : List Char → Bool
  | c :: _ => Text.isUpper c
  | [] => false

/-- The words of an identifier, separated by spaces. `inside` tells whether the text written so far
ends inside a word, `inRun` whether the character before belongs to a run of capitals. -/
def words (inside inRun : Bool) : List Char → List Char
  | [] => []
  | c :: rest =>
    if isSeparator c then gap inside ++ words false false rest
    else if Text.isUpper c then
      if inRun then c :: words (!Text.isBlank c) true rest
      else
        let new := if startsUpper rest then [c] else Text.lower c
        gap inside ++ new ++ words (insideAfter inside new) true rest
    else c :: words (!Text.isBlank c) false rest

/-- Upper-cases the first character. -/
def capitalize : List Char → List Char
  | [] => []
  | c :: rest => Text.upper c ++ rest

end Label

/-- The label of an identifier. -/
def label (identifier : String) : String :=
  String.ofList (Label.capitalize (Label.words false false identifier.toList))

end Metatype
