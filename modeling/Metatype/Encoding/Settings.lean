import Metatype.Json.Record
import Metatype.Settings.Basic

/-!
# Settings in JSON

Settings are an object with a section for the extraction, one for the output, and the list of
registered markers.

* `Settings.toJson`, `Settings.ofJson?`: writing and reading.
-/

namespace Metatype

open Json

/-- The format that a JSON value names. -/
def OutputFormat.ofJson? (v : Value) : Option OutputFormat := v.caseName?.bind ofName?

/-- A registration as JSON. -/
def Registration.toJson (r : Registration) : Value :=
  .object [("marker", .string r.marker), ("namespace", .string r.namespaceUri),
    ("prefix", .string r.namespacePrefix)]

/-- The registration that a JSON value stands for. -/
def Registration.ofJson? (v : Value) : Option Registration := do
  let given ← v.record? ["marker", "namespace", "prefix"]
  let marker ← mandatory (given "marker") Value.string?
  let namespaceUri ← mandatory (given "namespace") Value.string?
  let namespacePrefix ← mandatory (given "prefix") Value.string?
  return ⟨marker, namespaceUri, namespacePrefix⟩

namespace Settings

/-- Settings as JSON. -/
def toJson (s : Settings) : Value :=
  .object [
    ("extract", .object [("nested", .bool s.nested), ("min_version", .string s.minVersion),
      ("platform_packages", Value.ofStrings s.platform)]),
    ("output", .object [("format", .string s.format.name)]),
    ("extensions", .array (s.extensions.map Registration.toJson))]

/-- The settings with those of the section for the extraction. -/
def extractOfJson? (s : Settings) (v : Value) : Option Settings := do
  let given ← v.record? ["nested", "min_version", "platform_packages"]
  let nested ← defaulted (given "nested") s.nested Value.bool?
  let minVersion ← defaulted (given "min_version") s.minVersion Value.string?
  let platform ← defaulted (given "platform_packages") s.platform (Value.list? Value.string?)
  return { s with nested, minVersion, platform }

/-- The settings with those of the section for the output. -/
def outputOfJson? (s : Settings) (v : Value) : Option Settings := do
  let given ← v.record? ["format"]
  return { s with format := ← defaulted (given "format") s.format OutputFormat.ofJson? }

/-- The settings that a JSON value stands for. -/
def ofJson? (v : Value) : Option Settings := do
  let given ← v.record? ["extract", "output", "extensions"]
  let s ← defaulted (given "extract") {} (extractOfJson? {})
  let s ← defaulted (given "output") s s.outputOfJson?
  let extensions ← defaulted (given "extensions") [] (Value.list? Registration.ofJson?)
  return { s with extensions }

end Settings

end Metatype
