import Metatype.Numeral.Reading
import Metatype.Settings.Basic
import Metatype.Text.Case
import Metatype.Toml.Basic

/-!
# Settings from TOML values

The settings that merged TOML values stand for. Values are read generously: a number or truth value
serves as text, a number or one of several words as a truth value, and an array as the first fields
of a section. Keys that are no settings are ignored, and a setting that is not given has its
default.

* `Settings.ofToml?`: the settings; nothing if any of them has a value that cannot be read.
-/

namespace Metatype

namespace Toml

variable {α : Type}

/-! ## Values of settings -/

/-- A value as text. -/
def Value.text? : Value → Option String
  | .string s => some s
  | .boolean b => some (if b then "true" else "false")
  | .integer i => some (toString i)
  | .float x => some x.plainText
  | .dateTime s => some s
  | .array _ => none
  | .table _ => none

/-- The words that stand for true. -/
def trueWords : List String := ["1", "true", "on", "yes"]

/-- The words that stand for false. -/
def falseWords : List String := ["0", "false", "off", "no"]

/-- A value as a truth value. Numbers are true unless they are zero, words may be in any case. -/
def Value.truth? : Value → Option Bool
  | .boolean b => some b
  | .integer i => some (i ≠ 0)
  | .float x => some !x.isZero
  | .string s =>
    if trueWords.contains (Text.lowerCase s) then some true
    else if falseWords.contains (Text.lowerCase s) then some false
    else none
  | _ => none

/-- An array, with a reader for its items. -/
def Value.list? (read : Value → Option α) : Value → Option (List α)
  | .array items => items.mapM read
  | _ => none

/-- The name of one of several cases: a string, or the only key of a table. -/
def Value.caseName? : Value → Option String
  | .string s => some s
  | .table [(key, _)] => some key
  | _ => none

/-- What is given for the fields of a section: entries of a table, or items of an array in the
order of the fields. -/
def Value.fields? (fields : List String) : Value → Option (String → Option Value)
  | .table entries => some (find? entries)
  | .array items => some fun field => (fields.zip items).lookup field
  | _ => none

/-- A field that need not be given. -/
def defaulted (given : Option Value) (fallback : α) (read : Value → Option α) : Option α :=
  match given with
  | none => some fallback
  | some v => read v

end Toml

open Toml

/-- The format that a TOML value names, in any case. -/
def OutputFormat.ofToml? (v : Value) : Option OutputFormat :=
  v.caseName?.bind fun s => ofName? (Text.lowerCase s)

/-- The registration that a TOML value stands for. -/
def Registration.ofToml? (v : Value) : Option Registration := do
  let given ← v.fields? ["marker", "namespace", "prefix"]
  let marker ← (← given "marker").text?
  let namespaceUri ← (← given "namespace").text?
  let namespacePrefix ← (← given "prefix").text?
  return ⟨marker, namespaceUri, namespacePrefix⟩

namespace Settings

/-- The settings with those of the section for the extraction. -/
def extractOfToml? (s : Settings) (v : Value) : Option Settings := do
  let given ← v.fields? ["nested", "min_version", "platform_packages"]
  let nested ← defaulted (given "nested") s.nested Value.truth?
  let minVersion ← defaulted (given "min_version") s.minVersion Value.text?
  let platform ← defaulted (given "platform_packages") s.platform (Value.list? Value.text?)
  return { s with nested, minVersion, platform }

/-- The settings with those of the section for the output. -/
def outputOfToml? (s : Settings) (v : Value) : Option Settings := do
  let given ← v.fields? ["format"]
  return { s with format := ← defaulted (given "format") s.format OutputFormat.ofToml? }

/-- The settings that the entries of a root table stand for. -/
def ofToml? (entries : List (String × Value)) : Option Settings := do
  let s ← defaulted (find? entries "extract") {} (extractOfToml? {})
  let s ← defaulted (find? entries "output") s s.outputOfToml?
  let extensions ← defaulted (find? entries "extensions") [] (Value.list? Registration.ofToml?)
  return { s with extensions }

end Settings

end Metatype
