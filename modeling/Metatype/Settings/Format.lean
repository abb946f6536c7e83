import Metatype.Files.Path
import Metatype.Toml.Parser

/-!
# Formats of settings files

A settings file has one of several formats, and its extension says which. A path that is no file may
stand for one with an extension added. TOML is read here; how texts in the other formats are read is
not said, so whatever is proved about settings holds for any reading of them.

* `FileFormat.ofExtension?`: the format of an extension.
* `Formats`: how texts are read, and the order in which extensions are tried.
* `Formats.mem_candidates`: every extension is tried.
-/

namespace Metatype

/-- The formats of settings files. -/
inductive FileFormat
  | toml
  | json
  | yaml
  | ini
  | ron
  | json5
  deriving DecidableEq, Repr

namespace FileFormat

/-- All formats. -/
def all : List FileFormat := [.toml, .json, .yaml, .ini, .ron, .json5]

/-- The extensions of the files in a format. -/
def extensions : FileFormat → List String
  | .toml => ["toml"]
  | .json => ["json"]
  | .yaml => ["yaml", "yml"]
  | .ini => ["ini"]
  | .ron => ["ron"]
  | .json5 => ["json5"]

/-- The format of an extension. -/
def ofExtension? (ending : String) : Option FileFormat :=
  all.find? (·.extensions.contains ending)

theorem mem_all (f : FileFormat) : f ∈ all := by cases f <;> decide

/-- An extension belongs to one format only. -/
theorem ofExtension?_eq_some_iff {ending : String} {f : FileFormat} :
    ofExtension? ending = some f ↔ ending ∈ f.extensions := by
  constructor
  · intro h
    exact List.contains_iff_mem.1
      (List.find?_some (p := fun f : FileFormat => f.extensions.contains ending) h)
  · intro h
    cases f <;> simp only [extensions, List.mem_cons, List.not_mem_nil, or_false] at h <;>
      rcases h with rfl | rfl <;> decide

end FileFormat

namespace Settings

open Toml

/-- Entries of a root table. -/
abbrev Layer := List (String × Value)

/-- How the texts of settings files are read. -/
structure Formats where
  /-- The order in which the extensions of formats are tried: any order, but with no format left
  out. -/
  order : List FileFormat := FileFormat.all
  complete : order.Perm FileFormat.all := by decide
  /-- The entries that a text has in a format other than TOML, if it is one in that format. By
  default no text is. -/
  readOther : FileFormat → String → Option Layer := fun _ _ => none

namespace Formats

/-- The entries that a text has in a format, if it is one in that format. -/
def read? (f : Formats) : FileFormat → String → Option Layer
  | .toml, text => Toml.Document.parse text
  | format, text => f.readOther format text

/-- The paths with an extension added, each with the format of the extension, in the order in which
they are tried. -/
def candidates (f : Formats) (path : String) : List (String × FileFormat) :=
  f.order.flatMap fun format =>
    format.extensions.filterMap fun ending =>
      (Path.withExtension? path ending).map fun path => (path, format)

theorem mem_candidates {f : Formats} {path found : String} {format : FileFormat} :
    (found, format) ∈ f.candidates path ↔
      ∃ ending ∈ format.extensions, Path.withExtension? path ending = some found := by
  simp only [candidates, List.mem_flatMap, List.mem_filterMap, Option.map_eq_some_iff,
    Prod.mk.injEq]
  constructor
  · rintro ⟨_, _, ending, hending, _, hpath, rfl, rfl⟩
    exact ⟨ending, hending, hpath⟩
  · rintro ⟨ending, hending, hpath⟩
    exact ⟨format, f.complete.mem_iff.2 format.mem_all, ending, hending, found, hpath, rfl, rfl⟩

end Formats

end Settings

end Metatype
