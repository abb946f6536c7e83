import Metatype.CommandLine.Invocation
import Metatype.Encoding.Extraction
import Metatype.Files.Tree
import Metatype.Json.Printer
import Metatype.Loading
import Metatype.Settings.Loading

/-!
# Runs of the program

A run reads the settings and the types, extracts the object class of the root, writes it, and lists
what was reported; or it gives help. What it writes is decided before anything is written.

* `Plan.make`: all the reading, up to the result.
* `Plan.conclude`: status and output of a run, given whether the file could be written.
* `Disk.run`: a run on a file tree.
-/

namespace Metatype

/-- What a run comes to before anything is written. -/
inductive Plan
  /-- The arguments cannot be read. -/
  | misused
  /-- Help is asked for. -/
  | help
  /-- Something could not be read; what it was, and why. -/
  | failed (messages : List String)
  /-- An extraction, and how to write it. -/
  | finished (i : Invocation) (format : OutputFormat) (e : Extraction)

/-- What a run leaves behind. -/
structure Outcome where
  status : Nat
  standardOutput : String := ""
  standardError : String := ""
  deriving DecidableEq, Repr

/-! ## Reading -/

namespace Invocation

/-- The earliest revision to declare: the one asked for, or that of the settings. -/
def floor (i : Invocation) (s : Settings) : Except Revision.Fault Revision :=
  match i.minVersion with
  | some text => Revision.parse text
  | none => s.floor

/-- The format to write: in one line if asked for here or in the settings. -/
def format (i : Invocation) (s : Settings) : OutputFormat :=
  if i.compact then .compact else s.format

/-- The reader for types of a registry. -/
def reader (i : Invocation) (s : Settings) (r : Registry) (floor : Revision) : Reader where
  source := r.source
  recognizer := s.registrations.recognizer
  options := { nested := i.nested || s.nested }
  floor
  platform := s.platform

/-- The extraction that is asked for. -/
def extract (i : Invocation) (s : Settings) (r : Registry) : Plan :=
  match i.floor s with
  | .error fault => .failed fault.messages
  | .ok floor => .finished i (i.format s) ((i.reader s r floor).extract i.root)

end Invocation

namespace Plan

variable {m : Type → Type} [Monad m]

/-- Reads all that an invocation needs: first the settings, then the types. -/
def make (files : FileAccess m) (environment : Environment) (arguments : List String)
    (host : Settings.Host := {}) : m Plan := do
  match Invocation.ofArguments? arguments with
  | none => return .misused
  | some .help => return .help
  | some (.extraction i) =>
    match ← Settings.load files environment i.config host with
    | .error fault => return .failed ["loading configuration", fault.message]
    | .ok s =>
      match ← Registry.load files i.types with
      | .error fault => return .failed (("loading descriptors from " ++ i.types) :: fault.messages)
      | .ok r => return i.extract s r

/-! ## Writing -/

/-- The text of an extraction. -/
def textOf (format : OutputFormat) (e : Extraction) : String :=
  match format with
  | .pretty => e.toJson.pretty
  | .compact => e.toJson.compact

/-- The file that is written, with its text. -/
def file? : Plan → Option (String × String)
  | .finished i format e => i.output.map fun path => (path, textOf format e)
  | _ => none

/-- The outcome of a failure, said from the outside in. -/
def failure (messages : List String) : Outcome :=
  { status := 1, standardError := "Error: " ++ ": ".intercalate messages ++ "\n" }

/-- The outcome of an extraction that was written. -/
def report (i : Invocation) (standardOutput : String) (e : Extraction) : Outcome :=
  if e.report.hasErrors then { status := 1, standardOutput, standardError := e.report.text }
  else if e.isFound then { status := 0, standardOutput, standardError := e.report.text }
  else {
    status := 2
    standardOutput
    standardError := e.report.text ++ i.root ++ " is not an object class definition\n" }

/-- The outcome of a run, given how writing its file went. -/
def conclude (written : Except FileAccess.Fault Unit) : Plan → Outcome
  | .misused => { status := 2, standardError := Invocation.usage }
  | .help => { status := 0, standardOutput := Invocation.helpText }
  | .failed messages => failure messages
  | .finished i format e =>
    match i.output, written with
    | none, _ => report i (textOf format e ++ "\n") e
    | some path, .error fault => failure ["writing " ++ path, fault.message]
    | some _, .ok () => report i "" e

end Plan

/-! ## Runs -/

namespace Disk

/-- Writes the file of a plan, if it has one. -/
def carryOut (d : Disk) (p : Plan) : Disk × Outcome :=
  match p.file? with
  | none => (d, p.conclude (.ok ()))
  | some (path, text) =>
    match d.write path text.toUTF8 with
    | .ok d => (d, p.conclude (.ok ()))
    | .error fault => (d, p.conclude (.error fault))

/-- A run on a file tree. -/
def run (d : Disk) (environment : Environment) (arguments : List String)
    (host : Settings.Host := {}) : Disk × Outcome :=
  d.carryOut (Plan.make d.access environment arguments host)

end Disk

end Metatype
