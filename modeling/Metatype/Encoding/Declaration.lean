import Metatype.Encoding.Constant
import Metatype.Encoding.Schema
import Metatype.Declaration

/-!
# Declarations in JSON

Types with their members and markers. Every field of a type or a member has a default and may be
missing; when written, none is left out. A marker is an object whose `kind` tells how to read the
rest. Kinds are written by name; a reader says how it reads them.

* `MarkerKind.ofNameOrNumber?_of_ofName?`: of the two ways to read a kind, one extends the other.
* `DeclaredType.toJson`, `DeclaredType.ofJson?`: writing and reading; likewise for each part.
* `DeclaredType.read?`: reading, with a reader for the kinds of markers.
-/

namespace Metatype

open Json

/-! ## Kinds of markers -/

/-- A kind of marker. -/
inductive MarkerKind
  | objectClass
  | attribute
  | foreign
  deriving DecidableEq, Repr

namespace MarkerKind

/-- All kinds, in the order in which they are numbered. -/
def all : List MarkerKind := [.objectClass, .attribute, .foreign]

/-- The name of a kind. -/
def text : MarkerKind → String
  | .objectClass => "object_class"
  | .attribute => "attribute_definition"
  | .foreign => "other"

/-- The kind that a JSON value names. -/
def ofName? (v : Value) : Option MarkerKind := v.string?.bind fun name => all.find? (·.text = name)

/-- The kind that a JSON value names, or numbers from zero on. -/
def ofNameOrNumber? : Value → Option MarkerKind
  | .number (.integer i) => if 0 ≤ i then all[i.toNat]? else none
  | v => ofName? v

theorem ofName?_text (k : MarkerKind) : ofName? (.string k.text) = some k := by
  cases k <;> rfl

/-- A kind that is read by its name is read in the other way too. -/
theorem ofNameOrNumber?_of_ofName? {v : Value} {k : MarkerKind} (h : ofName? v = some k) :
    ofNameOrNumber? v = some k := by
  unfold ofNameOrNumber?
  split
  · simp [ofName?, Value.string?] at h
  · exact h

end MarkerKind

/-! ## Markers -/

/-- The members of an object class marker. -/
def ObjectClassMarker.members (m : ObjectClassMarker) : List (String × Value) :=
  [("id", orNull .string m.id), ("name", orNull .string m.name),
    ("description", orNull .string m.description),
    ("localization", orNull .string m.localization), ("pid", orNull Value.ofStrings m.pid),
    ("factory_pid", orNull Value.ofStrings m.factoryPid),
    ("icon", orNull (fun icons => .array (icons.map Icon.toJson)) m.icon)]

/-- The object class marker that a JSON value stands for. -/
def ObjectClassMarker.ofJson? (v : Value) : Option ObjectClassMarker := do
  let given ← v.record? ["id", "name", "description", "localization", "pid", "factory_pid", "icon"]
  let id ← optional (given "id") Value.string?
  let name ← optional (given "name") Value.string?
  let description ← optional (given "description") Value.string?
  let localization ← optional (given "localization") Value.string?
  let pid ← optional (given "pid") (Value.list? Value.string?)
  let factoryPid ← optional (given "factory_pid") (Value.list? Value.string?)
  let icon ← optional (given "icon") (Value.list? Icon.ofJson?)
  return ⟨id, name, description, localization, pid, factoryPid, icon⟩

/-- The members of an attribute marker. -/
def AttributeMarker.members (m : AttributeMarker) : List (String × Value) :=
  [("name", orNull .string m.name), ("description", orNull .string m.description),
    ("type", orNull ValueType.toJson m.valueType),
    ("cardinality", orNull (fun n => .ofInt n.toInt) m.cardinality),
    ("min", orNull .string m.min), ("max", orNull .string m.max),
    ("default_value", orNull Value.ofStrings m.defaults), ("required", orNull .bool m.required),
    ("options", orNull (fun choices => .array (choices.map Choice.toJson)) m.choices)]

/-- The attribute marker that a JSON value stands for. -/
def AttributeMarker.ofJson? (v : Value) : Option AttributeMarker := do
  let given ← v.record? ["name", "description", "type", "cardinality", "min", "max",
    "default_value", "required", "options"]
  let name ← optional (given "name") Value.string?
  let description ← optional (given "description") Value.string?
  let valueType ← optional (given "type") fun v => v.caseNameOrEmpty?.bind ValueType.ofText?
  let cardinality ← optional (given "cardinality") Value.int32?
  let min ← optional (given "min") Value.string?
  let max ← optional (given "max") Value.string?
  let defaults ← optional (given "default_value") (Value.list? Value.string?)
  let isRequired ← optional (given "required") Value.bool?
  let choices ← optional (given "options") (Value.list? Choice.ofJson?)
  return ⟨name, description, valueType, cardinality, min, max, defaults, isRequired, choices⟩

/-- The members of any other marker. -/
def ForeignMarker.members (m : ForeignMarker) : List (String × Value) :=
  [("type_name", .string m.typeName), ("values", m.values.toJson Constant.toJson)]

/-- The marker of any other type that a JSON value stands for. -/
def ForeignMarker.ofJson? (v : Value) : Option ForeignMarker := do
  let given ← v.record? ["type_name", "values"]
  let typeName ← mandatory (given "type_name") Value.string?
  let values ← defaulted (given "values") ∅ (OrderedMap.ofJson? Constant.ofJson?)
  return ⟨typeName, values⟩

/-- The kind of a marker. -/
def Marker.kind : Marker → MarkerKind
  | .objectClass _ => .objectClass
  | .attribute _ => .attribute
  | .foreign _ => .foreign

/-- The members of a marker other than its kind. -/
def Marker.members : Marker → List (String × Value)
  | .objectClass m => m.members
  | .attribute m => m.members
  | .foreign m => m.members

/-- A marker as JSON. -/
def Marker.toJson (m : Marker) : Value := .object (("kind", .string m.kind.text) :: m.members)

/-- The marker of a kind that the other members stand for. -/
def Marker.ofKind? (kind : MarkerKind) (v : Value) : Option Marker :=
  match kind with
  | .objectClass => (ObjectClassMarker.ofJson? v).map .objectClass
  | .attribute => (AttributeMarker.ofJson? v).map .attribute
  | .foreign => (ForeignMarker.ofJson? v).map .foreign

/-- The marker that a JSON value stands for, with a reader for its kind. The kind may stand anywhere
in an object, but only once, and comes first in an array. -/
def Marker.read? (kind? : Value → Option MarkerKind) : Value → Option Marker
  | .object members =>
    match members.filter (·.1 = "kind") with
    | [(_, kind)] => do ofKind? (← kind? kind) (.object (members.filter (·.1 ≠ "kind")))
    | _ => none
  | .array (kind :: rest) => do ofKind? (← kind? kind) (.array rest)
  | _ => none

/-- The marker that a JSON value stands for. -/
def Marker.ofJson? : Value → Option Marker := read? MarkerKind.ofName?

/-! ## Members -/

/-- A field as JSON. -/
def Field.toJson (f : Field) : Value :=
  .object
    [("name", .string f.name), ("type", .string f.typeName), ("is_static", .bool f.isStatic),
      ("is_final", .bool f.isFinal), ("is_enum_constant", .bool f.isEnumerator),
      ("constant", orNull Constant.toJson f.constant),
      ("markers", .array (f.markers.map Marker.toJson))]

/-- The field that a JSON value stands for, with a reader for kinds of markers. -/
def Field.read? (kind? : Value → Option MarkerKind) (v : Value) : Option Field := do
  let given ← v.record? ["name", "type", "is_static", "is_final", "is_enum_constant", "constant",
    "markers"]
  let name ← defaulted (given "name") "" Value.string?
  let typeName ← defaulted (given "type") "" Value.string?
  let isStatic ← defaulted (given "is_static") false Value.bool?
  let isFinal ← defaulted (given "is_final") false Value.bool?
  let isEnumerator ← defaulted (given "is_enum_constant") false Value.bool?
  let constant ← optional (given "constant") Constant.ofJson?
  let markers ← defaulted (given "markers") [] (Value.list? (Marker.read? kind?))
  return { name, typeName, isStatic, isFinal, isEnumerator, constant, markers }

/-- The field that a JSON value stands for. -/
def Field.ofJson? : Value → Option Field := read? MarkerKind.ofName?

/-- A method as JSON. -/
def Method.toJson (m : Method) : Value :=
  .object
    [("name", .string m.name), ("return_type", .string m.returnType),
      ("parameters", .ofStrings m.parameters), ("is_static", .bool m.isStatic),
      ("is_constructor", .bool m.isConstructor),
      ("default_value", orNull Constant.toJson m.default),
      ("markers", .array (m.markers.map Marker.toJson))]

/-- The method that a JSON value stands for, with a reader for kinds of markers. -/
def Method.read? (kind? : Value → Option MarkerKind) (v : Value) : Option Method := do
  let given ← v.record? ["name", "return_type", "parameters", "is_static", "is_constructor",
    "default_value", "markers"]
  let name ← defaulted (given "name") "" Value.string?
  let returnType ← defaulted (given "return_type") "" Value.string?
  let parameters ← defaulted (given "parameters") [] (Value.list? Value.string?)
  let isStatic ← defaulted (given "is_static") false Value.bool?
  let isConstructor ← defaulted (given "is_constructor") false Value.bool?
  let default ← optional (given "default_value") Constant.ofJson?
  let markers ← defaulted (given "markers") [] (Value.list? (Marker.read? kind?))
  return { name, returnType, parameters, isStatic, isConstructor, default, markers }

/-- The method that a JSON value stands for. -/
def Method.ofJson? : Value → Option Method := read? MarkerKind.ofName?

/-! ## Types -/

/-- The name of a kind. -/
def Kind.text : Kind → String
  | .classType => "class"
  | .interfaceType => "interface"
  | .annotationType => "annotation"
  | .enumType => "enum"

/-- The kind that a JSON value names. -/
def Kind.ofJson? (v : Value) : Option Kind := do
  let name ← v.caseName?
  [classType, interfaceType, annotationType, enumType].find? (·.text = name)

/-- A type as JSON. -/
def DeclaredType.toJson (t : DeclaredType) : Value :=
  .object
    [("name", .string t.name), ("kind", .string t.kind.text),
      ("is_abstract", .bool t.declaredAbstract), ("interfaces", .ofStrings t.interfaces),
      ("superclass", orNull .string t.superclass),
      ("public_no_arg_constructor", .bool t.hasPublicConstructor),
      ("markers", .array (t.markers.map Marker.toJson)),
      ("fields", .array (t.fields.map Field.toJson)),
      ("methods", .array (t.methods.map Method.toJson))]

/-- The type that a JSON value stands for, with a reader for kinds of markers. -/
def DeclaredType.read? (kind? : Value → Option MarkerKind) (v : Value) : Option DeclaredType := do
  let given ← v.record? ["name", "kind", "is_abstract", "interfaces", "superclass",
    "public_no_arg_constructor", "markers", "fields", "methods"]
  let name ← defaulted (given "name") "" Value.string?
  let kind ← defaulted (given "kind") .classType Kind.ofJson?
  let declaredAbstract ← defaulted (given "is_abstract") false Value.bool?
  let interfaces ← defaulted (given "interfaces") [] (Value.list? Value.string?)
  let superclass ← optional (given "superclass") Value.string?
  let hasPublicConstructor ← defaulted (given "public_no_arg_constructor") false Value.bool?
  let markers ← defaulted (given "markers") [] (Value.list? (Marker.read? kind?))
  let fields ← defaulted (given "fields") [] (Value.list? (Field.read? kind?))
  let methods ← defaulted (given "methods") [] (Value.list? (Method.read? kind?))
  return { name, kind, declaredAbstract, interfaces, superclass, hasPublicConstructor, markers,
           fields, methods }

/-- The type that a JSON value stands for. -/
def DeclaredType.ofJson? : Value → Option DeclaredType := read? MarkerKind.ofName?

end Metatype
