import Metatype.Encoding.Report
import Metatype.Encoding.Schema
import Metatype.Extraction

/-!
# Extractions in JSON

An extraction is an object with the object class, or null, and the report.

* `Extraction.toJson`: writing.
-/

namespace Metatype

open Json

/-- An extraction as JSON. -/
def Extraction.toJson (e : Extraction) : Value :=
  .object [("ocd", orNull ObjectClass.toJson e.objectClass), ("diagnostics", e.report.toJson)]

end Metatype
