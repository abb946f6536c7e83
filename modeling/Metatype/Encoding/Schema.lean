import Metatype.Json.Record
import Metatype.Schema

/-!
# Schemas in JSON

Object classes with all their parts, written with keys in a fixed order. What is missing or empty
is left out, except that the type of an attribute is written as null.

* `ObjectClass.toJson`, `ObjectClass.ofJson?`: writing and reading; likewise for each part.
-/

namespace Metatype

open Json

/-! ## Revisions and value types -/

/-- A revision as JSON. -/
def Revision.toJson (r : Revision) : Value := .string r.text

/-- The revision that a JSON value names. -/
def Revision.ofJson? (v : Value) : Option Revision := v.caseName?.bind ofText?

/-- A value type as JSON. -/
def ValueType.toJson (t : ValueType) : Value := .string t.text

/-- The value type that a JSON value names. -/
def ValueType.ofJson? (v : Value) : Option ValueType := v.caseName?.bind ofText?

/-- A cardinality as JSON. -/
def Cardinality.toJson (c : Cardinality) : Value := .ofInt c.count.toInt

/-- The cardinality that a JSON value stands for. -/
def Cardinality.ofJson? (v : Value) : Option Cardinality := v.int32?.map .mk

/-! ## Parts -/

/-- A choice as JSON. -/
def Choice.toJson (c : Choice) : Value :=
  .object [("label", .string c.label), ("value", .string c.value)]

/-- The choice that a JSON value stands for. -/
def Choice.ofJson? (v : Value) : Option Choice := do
  let given ← v.record? ["label", "value"]
  let label ← mandatory (given "label") Value.string?
  let value ← mandatory (given "value") Value.string?
  return ⟨label, value⟩

/-- A designation as JSON. -/
def Designate.toJson (d : Designate) : Value :=
  .object [("ocd_ref", .string d.objectClass), ("pid", .string d.pid), ("factory", .bool d.factory)]

/-- The designation that a JSON value stands for. -/
def Designate.ofJson? (v : Value) : Option Designate := do
  let given ← v.record? ["ocd_ref", "pid", "factory"]
  let objectClass ← mandatory (given "ocd_ref") Value.string?
  let pid ← mandatory (given "pid") Value.string?
  let factory ← mandatory (given "factory") Value.bool?
  return ⟨objectClass, pid, factory⟩

/-- An icon as JSON. -/
def Icon.toJson (i : Icon) : Value :=
  .object [("resource", .string i.resource), ("size", .ofInt i.size.toInt)]

/-- The icon that a JSON value stands for. -/
def Icon.ofJson? (v : Value) : Option Icon := do
  let given ← v.record? ["resource", "size"]
  let resource ← mandatory (given "resource") Value.string?
  let size ← mandatory (given "size") Value.int32?
  return ⟨resource, size⟩

/-- A map as an object, with a reader for its values. Of several values under one key the last one
counts. -/
def OrderedMap.ofJson? {α : Type} (read : Value → Option α) : Value → Option (OrderedMap α)
  | .object members => (members.mapM fun m => (read m.2).map (m.1, ·)).map .ofList
  | _ => none

/-- A map as JSON. -/
def OrderedMap.toJson {α : Type} (write : α → Value) (m : OrderedMap α) : Value :=
  .object (m.map write).toList

/-- Extension attributes as JSON. -/
def Extension.toJson (e : Extension) : Value :=
  .object
    [("marker", .string e.marker), ("namespace", .string e.namespaceUri),
      ("prefix", .string e.namespacePrefix), ("attributes", e.attributes.toJson .string)]

/-- The extension attributes that a JSON value stands for. -/
def Extension.ofJson? (v : Value) : Option Extension := do
  let given ← v.record? ["marker", "namespace", "prefix", "attributes"]
  let marker ← mandatory (given "marker") Value.string?
  let namespaceUri ← mandatory (given "namespace") Value.string?
  let namespacePrefix ← mandatory (given "prefix") Value.string?
  let attributes ← mandatory (given "attributes") (OrderedMap.ofJson? Value.string?)
  return ⟨marker, namespaceUri, namespacePrefix, attributes⟩

/-! ## Attributes -/

/-- An attribute as JSON. -/
def Attribute.toJson (a : Attribute) : Value :=
  .object <|
    [("id", .string a.id), ("name", .string a.name)] ++
    memberOf "description" .string a.description ++
    [("type", orNull ValueType.toJson a.valueType), ("cardinality", a.cardinality.toJson)] ++
    memberOf "min" .string a.min ++
    memberOf "max" .string a.max ++
    memberOf "defaults" Value.ofStrings a.defaults ++
    [("required", .bool a.required)] ++
    memberOfList "options" Choice.toJson a.choices ++
    memberOfList "extensions" Extension.toJson a.extensions

/-- The keys of an attribute. -/
def Attribute.keys : List String :=
  ["id", "name", "description", "type", "cardinality", "min", "max", "defaults", "required",
    "options", "extensions"]

/-- The attribute that a JSON value stands for. -/
def Attribute.ofJson? (v : Value) : Option Attribute := do
  let given ← v.record? keys
  let id ← mandatory (given "id") Value.string?
  let name ← mandatory (given "name") Value.string?
  let description ← optional (given "description") Value.string?
  let valueType ← optional (given "type") ValueType.ofJson?
  let cardinality ← mandatory (given "cardinality") Cardinality.ofJson?
  let min ← optional (given "min") Value.string?
  let max ← optional (given "max") Value.string?
  let defaults ← optional (given "defaults") (Value.list? Value.string?)
  let isRequired ← mandatory (given "required") Value.bool?
  let choices ← defaulted (given "options") [] (Value.list? Choice.ofJson?)
  let extensions ← defaulted (given "extensions") [] (Value.list? Extension.ofJson?)
  return ⟨id, name, description, valueType, cardinality, min, max, defaults, isRequired, choices,
    extensions⟩

/-! ## Object classes -/

/-- An object class as JSON. -/
def ObjectClass.toJson (o : ObjectClass) : Value :=
  .object <|
    [("id", .string o.id), ("name", .string o.name), ("description", .string o.description),
      ("localization", .string o.localization),
      ("attributes", .array (o.attributes.map Attribute.toJson))] ++
    memberOfList "designates" Designate.toJson o.designates ++
    memberOfList "icons" Icon.toJson o.icons ++
    memberOfList "extensions" Extension.toJson o.extensions ++
    [("min_version", o.revision.toJson)]

/-- The keys of an object class. -/
def ObjectClass.keys : List String :=
  ["id", "name", "description", "localization", "attributes", "designates", "icons", "extensions",
    "min_version"]

/-- The object class that a JSON value stands for. -/
def ObjectClass.ofJson? (v : Value) : Option ObjectClass := do
  let given ← v.record? keys
  let id ← mandatory (given "id") Value.string?
  let name ← mandatory (given "name") Value.string?
  let description ← mandatory (given "description") Value.string?
  let localization ← mandatory (given "localization") Value.string?
  let attributes ← mandatory (given "attributes") (Value.list? Attribute.ofJson?)
  let designates ← defaulted (given "designates") [] (Value.list? Designate.ofJson?)
  let icons ← defaulted (given "icons") [] (Value.list? Icon.ofJson?)
  let extensions ← defaulted (given "extensions") [] (Value.list? Extension.ofJson?)
  let revision ← mandatory (given "min_version") Revision.ofJson?
  return ⟨id, name, description, localization, attributes, designates, icons, extensions, revision⟩

end Metatype
