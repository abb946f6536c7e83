import Metatype.Files.Tree
import Metatype.Settings.Basic
import Metatype.Toml.Printer

/-!
# Settings as a document

All settings, also those with their defaults, as a TOML document: a section for the extraction, one
for the output, and a table for each registered marker.

* `Settings.toToml`: the document.
* `Settings.save`: the document in a file.
-/

namespace Metatype.Settings

open Toml

/-- The section for the extraction. -/
def extractSection (s : Settings) : List Char :=
  tableHeader "extract" ++ boolEntry "nested" s.nested ++ stringEntry "min_version" s.minVersion ++
    stringsEntry "platform_packages" s.platform

/-- The section for the output. -/
def outputSection (s : Settings) : List Char :=
  tableHeader "output" ++ stringEntry "format" s.format.name

/-- The table of a registered marker. -/
def extensionTable (r : Registration) : List Char :=
  itemHeader "extensions" ++ stringEntry "marker" r.marker ++
    stringEntry "namespace" r.namespaceUri ++ stringEntry "prefix" r.namespacePrefix

/-- The settings as a document. Without registered markers their empty list comes first, because
nothing at the root may follow a section. -/
def toToml (s : Settings) : String :=
  String.ofList <|
    (if s.extensions.isEmpty then stringsEntry "extensions" [] ++ ['\n'] else []) ++
    s.extractSection ++ '\n' :: s.outputSection ++
    s.extensions.flatMap fun r => '\n' :: extensionTable r

/-- The disk with the settings in a file. -/
def save (s : Settings) (d : Disk) (path : String) : Except FileAccess.Fault Disk :=
  d.write path s.toToml.toUTF8

end Metatype.Settings
