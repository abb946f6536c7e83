import Metatype.Reader
import Metatype.Revision

/-!
# Settings

What a user may configure: how types are read, how the result is written, and which markers
contribute extension attributes. Every setting has a default.

* `Settings.options`, `Settings.floor`, `Settings.registrations`: what the settings mean for a
  reader.
-/

namespace Metatype

/-- How an extraction is written. -/
inductive OutputFormat
  /-- Over several lines. -/
  | pretty
  /-- In one line. -/
  | compact
  deriving DecidableEq, Repr, Inhabited

namespace OutputFormat

/-- All formats. -/
def all : List OutputFormat := [.pretty, .compact]

/-- The name of a format. -/
def name : OutputFormat → String
  | .pretty => "pretty"
  | .compact => "compact"

/-- The format of a name. -/
def ofName? (s : String) : Option OutputFormat := all.find? (·.name = s)

@[simp]
theorem ofName?_name (f : OutputFormat) : ofName? f.name = some f := by cases f <;> decide

end OutputFormat

/-- The settings of the program. -/
structure Settings where
  /-- Whether members may return interfaces. -/
  nested : Bool := false
  /-- The earliest revision to declare, as text that is read only when it is needed. -/
  minVersion : String := Revision.v1_2.text
  /-- The packages of the platform. -/
  platform : List String := defaultPlatform
  format : OutputFormat := .pretty
  /-- The marker types that contribute extension attributes. -/
  extensions : List Registration := []
  deriving DecidableEq, Repr, Inhabited

namespace Settings

/-- The options of an extraction. -/
def options (s : Settings) : Options := { nested := s.nested }

/-- The earliest revision to declare. -/
def floor (s : Settings) : Except Revision.Fault Revision := Revision.parse s.minVersion

/-- The registered marker types. -/
def registrations (s : Settings) : Registrations := .ofList s.extensions

end Settings

end Metatype
