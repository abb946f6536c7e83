import Metatype.Source

/-!
# Reports

Problems met while a schema is extracted. They are collected in the order in which they are met
and never stop the extraction.

* `Diagnostic.text`, `Report.text`: the text of a problem and of all of them.
* `Reporting`: computations that append to a report.
-/

namespace Metatype

/-! ## Codes -/

/-- The kinds of problems. -/
inductive Code
  | constructorFound
  | parameterizedMember
  | notAnInterface
  | misplacedAttributeMarker
  | invalidPrefix
  | arrayOfCollection
  | nestedArray
  | abstractType
  | nestedTypeNotEnabled
  | annotationNested
  | unresolvedType
  | sourceFailure
  deriving DecidableEq, Repr

namespace Code

/-- All codes. -/
def all : List Code :=
  [.constructorFound, .parameterizedMember, .notAnInterface, .misplacedAttributeMarker,
    .invalidPrefix, .arrayOfCollection, .nestedArray, .abstractType, .nestedTypeNotEnabled,
    .annotationNested, .unresolvedType, .sourceFailure]

/-- The short form of a code, with a letter for its severity. -/
def id : Code → String
  | .constructorFound => "E001"
  | .parameterizedMember => "E002"
  | .notAnInterface => "E003"
  | .misplacedAttributeMarker => "W001"
  | .invalidPrefix => "W002"
  | .arrayOfCollection => "E004"
  | .nestedArray => "E005"
  | .abstractType => "E006"
  | .nestedTypeNotEnabled => "E007"
  | .annotationNested => "W003"
  | .unresolvedType => "E008"
  | .sourceFailure => "E009"

/-- The long form of a code. -/
def name : Code → String
  | .constructorFound => "Constructor"
  | .parameterizedMember => "ParameterizedMember"
  | .notAnInterface => "NotAnInterface"
  | .misplacedAttributeMarker => "MisplacedAttributeMarker"
  | .invalidPrefix => "InvalidPrefix"
  | .arrayOfCollection => "ArrayOfCollection"
  | .nestedArray => "NestedArray"
  | .abstractType => "AbstractType"
  | .nestedTypeNotEnabled => "NestedTypeNotEnabled"
  | .annotationNested => "NestedAnnotation"
  | .unresolvedType => "UnresolvedType"
  | .sourceFailure => "SourceFailure"

/-- The code with a long form. -/
def ofName? (s : String) : Option Code := all.find? (·.name = s)

@[simp]
theorem ofName?_name (c : Code) : ofName? c.name = some c := by cases c <;> decide

end Code

/-- How serious a problem is. -/
inductive Severity
  | info
  | warning
  | error
  deriving DecidableEq, Repr

namespace Severity

/-- A severity as it stands in texts. -/
def text : Severity → String
  | .info => "info"
  | .warning => "warning"
  | .error => "error"

/-- A severity as it stands in documents. -/
def name : Severity → String
  | .info => "Info"
  | .warning => "Warning"
  | .error => "Error"

/-- The severity with a document name. -/
def ofName? (s : String) : Option Severity := [info, warning, error].find? (·.name = s)

@[simp]
theorem ofName?_name (s : Severity) : ofName? s.name = some s := by cases s <;> decide

end Severity

/-! ## Diagnostics -/

/-- One problem. -/
structure Diagnostic where
  code : Code
  severity : Severity
  message : String
  /-- Details, such as the cause of a failure. -/
  context : List String := []
  deriving DecidableEq, Repr

/-- The text of a problem, with one line more for each detail. -/
def Diagnostic.text (d : Diagnostic) : String :=
  "[" ++ d.code.id ++ "] " ++ d.severity.text ++ ": " ++ d.message ++
    String.join (d.context.map ("\n  - " ++ ·))

/-- Problems in the order in which they were met. -/
structure Report where
  items : List Diagnostic := []
  deriving DecidableEq, Repr, Inhabited

namespace Report

/-- Adds a problem after the others. -/
def push (r : Report) (d : Diagnostic) : Report := ⟨r.items ++ [d]⟩

instance : Append Report := ⟨fun a b => ⟨a.items ++ b.items⟩⟩

/-- The problems that are errors. -/
def errors (r : Report) : List Diagnostic := r.items.filter (·.severity = .error)

/-- The problems that are warnings. -/
def warnings (r : Report) : List Diagnostic := r.items.filter (·.severity = .warning)

/-- Whether there is any error. -/
def hasErrors (r : Report) : Bool := !r.errors.isEmpty

/-- Whether there is a problem with this code. -/
def contains (r : Report) (code : Code) : Bool := r.items.any (·.code = code)

/-- All problems, each with a line end after it. -/
def text (r : Report) : String := String.join (r.items.map (·.text ++ "\n"))

/-- Adds an error. -/
def error (r : Report) (code : Code) (message : String) : Report :=
  r.push { code, severity := .error, message }

/-- Adds a warning. -/
def warning (r : Report) (code : Code) (message : String) : Report :=
  r.push { code, severity := .warning, message }

/-- Adds an error that a failing source caused. -/
def failure (r : Report) (code : Code) (cause : Failure) (message : String) : Report :=
  r.push { code, severity := .error, message, context := [cause.message] }

end Report

/-! ## Reporting -/

/-- A computation that adds to a report. -/
abbrev Reporting (α : Type) := StateM Report α

namespace Reporting

/-- Reports an error. -/
def error (code : Code) (message : String) : Reporting Unit := modify (·.error code message)

/-- Reports a warning. -/
def warning (code : Code) (message : String) : Reporting Unit := modify (·.warning code message)

/-- Reports an error that a failing source caused. -/
def failure (code : Code) (cause : Failure) (message : String) : Reporting Unit :=
  modify (·.failure code cause message)

end Reporting

end Metatype
