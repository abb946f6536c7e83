import Metatype.Files.Access
import Metatype.Settings.Format
import Metatype.Settings.Interpretation
import Metatype.Settings.Layers
import Metatype.Text.Utf8

/-!
# Loading settings

The settings of a user: the standard files in the working directory, the user's own file, a file
that is asked for, and the environment variables, each overriding those before it. All files but
the one that is asked for may be missing or hold no text, but a text that is there must be one in
the format of its file.

* `Settings.Host`: what the system adds to files and variables.
* `Settings.sources`: the files in their order.
* `Settings.ofLayers`: the settings of layers.
* `Settings.load`: the settings from files and variables.
-/

namespace Metatype.Settings

open Toml

/-- What the settings depend on besides files and variables. -/
structure Host where
  /-- The home of the user, as the system knows it. It counts if no variable names one. -/
  home : Option String := none
  formats : Formats := {}

/-- Why settings cannot be loaded. -/
inductive Fault
  /-- The file that is asked for is not there, is no text, or has an extension of no format. -/
  | missing (path : String)
  /-- The text of a file is none in its format. -/
  | malformed (path : String)
  /-- A setting has a value that it cannot take. -/
  | mismatch
  deriving DecidableEq, Repr

/-- The text of a fault. -/
def Fault.message : Fault → String
  | .missing path => "configuration file " ++ path ++ " not found"
  | .malformed path => "configuration file " ++ path ++ " is not valid in its format"
  | .mismatch => "a setting has a value of the wrong type"

/-! ## Layers -/

/-- The settings of layers, the last one on top. -/
def ofLayers (layers : List Layer) : Except Fault Settings :=
  match ofToml? (layers.foldl overlay []) with
  | some s => .ok s
  | none => .error .mismatch

/-- The layer that the bytes of a file hold, and nothing if they are not text. -/
def layerOfBytes? (formats : Formats) (path : String) (format : FileFormat) (bytes : ByteArray) :
    Option (Except Fault Layer) :=
  (Text.decode? bytes).map fun text =>
    match formats.read? format text with
    | some layer => .ok layer
    | none => .error (.malformed path)

/-! ## Files -/

/-- A file with settings. -/
structure SettingsFile where
  path : String
  isRequired : Bool
  deriving DecidableEq, Repr

/-- The files in the working directory. -/
def standardPaths : List String := ["metatype.toml", ".metatype.toml", "config/metatype.toml"]

/-- The home of the user: the one that a variable names, or else the one that the system knows. -/
def home? (environment : Environment) (host : Host) : Option String :=
  ((environment.lookup "HOME").filter (· ≠ "")).or (host.home.filter (· ≠ ""))

/-- The directory for the settings of all programs of a user with a home: an absolute one that a
variable names, or the usual one at home. -/
def userDirectory (environment : Environment) (home : String) : String :=
  ((environment.lookup "XDG_CONFIG_HOME").filter Path.isAbsolute).getD (Path.child home ".config")

/-- The user's own file. Without a home there is none. -/
def userPath? (environment : Environment) (host : Host) : Option String :=
  (home? environment host).map fun home =>
    Path.child (Path.child (userDirectory environment home) "metatype") "metatype.toml"

variable {m : Type → Type} [Monad m]

/-- All files with settings, in the order in which they override each other. The user's own file is
among them only if there is something at its path. -/
def sources (files : FileAccess m) (environment : Environment) (asked : Option String)
    (host : Host) : m (List SettingsFile) := do
  let user ← match userPath? environment host with
    | none => pure []
    | some path =>
      let isThere := (← files.isFile path) || (← files.isDirectory path)
      pure (if isThere then [SettingsFile.mk path false] else [])
  let standard := standardPaths.map fun path => SettingsFile.mk path false
  return standard ++ user ++ asked.toList.map fun path => SettingsFile.mk path true

/-- The first of some paths at which there is a file. -/
def firstFile? (files : FileAccess m) :
    List (String × FileFormat) → m (Option (String × FileFormat))
  | [] => return none
  | candidate :: rest => do
    if ← files.isFile candidate.1 then return some candidate else firstFile? files rest

/-- The file that a path means, with its format: the one there, if its extension has a format, or
the first one with an extension added. -/
def resolve? (files : FileAccess m) (formats : Formats) (path : String) :
    m (Option (String × FileFormat)) := do
  if ← files.isFile path then
    return ((Path.extension? path).bind FileFormat.ofExtension?).map fun format => (path, format)
  else firstFile? files (formats.candidates path)

/-- The layer of a file. One that need not be there is empty if it is missing or not text. -/
def readLayer (files : FileAccess m) (formats : Formats) (file : SettingsFile) :
    m (Except Fault Layer) := do
  let missing := if file.isRequired then .error (.missing file.path) else .ok []
  match ← resolve? files formats file.path with
  | none => return missing
  | some (path, format) =>
    match ← files.read path with
    | .error _ => return missing
    | .ok bytes => return (layerOfBytes? formats path format bytes).getD missing

/-- The layers of files, up to the first one that cannot be read. -/
def readLayers (files : FileAccess m) (formats : Formats) :
    List SettingsFile → m (Except Fault (List Layer))
  | [] => pure (.ok [])
  | file :: rest => do
    match ← readLayer files formats file with
    | .error fault => return .error fault
    | .ok layer => return (← readLayers files formats rest).map (layer :: ·)

/-- The settings from all files and from the environment variables. -/
def load (files : FileAccess m) (environment : Environment) (asked : Option String)
    (host : Host := {}) : m (Except Fault Settings) := do
  let layers ← readLayers files host.formats (← sources files environment asked host)
  return layers.bind fun layers => ofLayers (layers ++ [environmentLayer environment])

end Metatype.Settings
