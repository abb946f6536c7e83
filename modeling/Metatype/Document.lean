import Metatype.Encoding.Declaration
import Metatype.Json.Parser
import Metatype.Registry

/-!
# Documents

A document is a JSON text that holds one type or an array of types. Its markers may have their
kinds by number.

* `Document.parse`: the types of a document.
* `Registry.addDocument`: adds the types of a document to a registry.
-/

namespace Metatype

namespace Document

/-- Why a text is no document. -/
inductive Fault
  /-- The text is not JSON, or goes on after the value. -/
  | notJson
  /-- The text is JSON, but neither a type nor an array of types. -/
  | mismatch
  deriving DecidableEq, Repr

/-- What is said of JSON that is no document. -/
def mismatchText : String := "data did not match any variant of untagged enum DescriptorDocument"

/-- The text of a fault. -/
def Fault.message : Fault → String
  | .notJson => "the text is not JSON"
  | .mismatch => mismatchText

/-- A type of a document. -/
def type? : Json.Value → Option DeclaredType := DeclaredType.read? MarkerKind.ofNameOrNumber?

/-- The types that a JSON value holds. An array that is not one of types may be a type itself. -/
def types? (v : Json.Value) : Option (List DeclaredType) :=
  match v.list? type? with
  | some ts => some ts
  | none => (type? v).map ([·])

/-- The types of a document. The value is judged before what follows it. -/
def parse (text : String) : Except Fault (List DeclaredType) :=
  match Json.Value.parsePrefix text with
  | none => .error .notJson
  | some (v, rest) =>
    match types? v with
    | none => .error .mismatch
    | some ts => if (Json.skip rest).isEmpty then .ok ts else .error .notJson

end Document

namespace Registry

/-- Why types cannot be added. -/
inductive Fault
  | duplicate (name : String)
  | document (fault : Document.Fault)
  deriving DecidableEq, Repr

/-- The text of a fault. -/
def Fault.message : Fault → String
  | .duplicate name => "Type descriptor already registered: " ++ name
  | .document fault => "JSON error: " ++ fault.message

/-- Adds types in order. Those before a duplicate stay added. -/
def addTypes (r : Registry) (types : List DeclaredType) : Registry × Except Fault Nat :=
  match r.addAll types with
  | (r, none) => (r, .ok types.length)
  | (r, some name) => (r, .error (.duplicate name))

/-- Adds the types of a document, and returns how many there are. -/
def addDocument (r : Registry) (text : String) : Registry × Except Fault Nat :=
  match Document.parse text with
  | .ok types => r.addTypes types
  | .error fault => (r, .error (.document fault))

/-- A registry of types with distinct names. -/
def ofTypes (types : List DeclaredType) : Except Fault Registry :=
  match empty.addAll types with
  | (r, none) => .ok r
  | (_, some name) => .error (.duplicate name)

end Registry

end Metatype
