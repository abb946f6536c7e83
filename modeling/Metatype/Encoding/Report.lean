import Metatype.Json.Record
import Metatype.Report

/-!
# Reports in JSON

A report is an object with the list of its problems.

* `Report.toJson`, `Report.ofJson?`: writing and reading; likewise for a single problem.
-/

namespace Metatype

open Json

/-- The code that a JSON value names. -/
def Code.ofJson? (v : Value) : Option Code := v.caseName?.bind ofName?

/-- The severity that a JSON value names. -/
def Severity.ofJson? (v : Value) : Option Severity := v.caseName?.bind ofName?

/-- A problem as JSON. -/
def Diagnostic.toJson (d : Diagnostic) : Value :=
  .object <|
    [("code", .string d.code.name), ("severity", .string d.severity.name),
      ("message", .string d.message)] ++
    memberOfList "context" .string d.context

/-- The problem that a JSON value stands for. -/
def Diagnostic.ofJson? (v : Value) : Option Diagnostic := do
  let given ← v.record? ["code", "severity", "message", "context"]
  let code ← mandatory (given "code") Code.ofJson?
  let severity ← mandatory (given "severity") Severity.ofJson?
  let message ← mandatory (given "message") Value.string?
  let context ← defaulted (given "context") [] (Value.list? Value.string?)
  return ⟨code, severity, message, context⟩

/-- A report as JSON. -/
def Report.toJson (r : Report) : Value :=
  .object [("items", .array (r.items.map Diagnostic.toJson))]

/-- The report that a JSON value stands for. -/
def Report.ofJson? (v : Value) : Option Report := do
  let given ← v.record? ["items"]
  return ⟨← mandatory (given "items") (Value.list? Diagnostic.ofJson?)⟩

end Metatype
