import Metatype.Json.Record
import Metatype.Reader

/-!
# Options in JSON

Options are the list of the names of those that are on.

* `Options.toJson`, `Options.ofJson?`: writing and reading.
-/

namespace Metatype.Options

open Json

/-- The name of the option for nested types. -/
def nestedName : String := "nested"

/-- Options as JSON. -/
def toJson (o : Options) : Value := .array (if o.nested then [.string nestedName] else [])

/-- The options that a JSON value stands for. A name may be repeated. -/
def ofJson? (v : Value) : Option Options := do
  let names ← v.list? Value.caseName?
  if names.all (· = nestedName) then some ⟨!names.isEmpty⟩ else none

theorem ofJson?_toJson (o : Options) : ofJson? o.toJson = some o := by
  cases o with
  | mk nested => cases nested <;> decide

end Metatype.Options
