import Metatype.Draft
import Metatype.PropertyKey
import Metatype.TypeMapping

/-!
# Collecting the attributes of a type

A collector takes the events of one type and adds what they declare to a draft. While the events
come in, members are kept as pending attributes, each with the markers and the default that follow
it. When the type ends, the pending attributes are settled one by one, in order.

* `Collector.step`: one event. Events may come in any order.
* `Collector.run`: a sequence of events.
* `Reader.settle`: a pending attribute becomes an attribute or an error.
-/

namespace Metatype

/-! ## Pending attributes -/

/-- A member that waits for the end of its type. -/
structure Pending where
  name : String
  returnType : String
  /-- The number of parameters. -/
  parameters : Nat
  isConstructor : Bool
  /-- The last attribute marker on the member. -/
  marker : Option AttributeMarker := none
  default : Option Constant := none
  extensions : List Extension := []
  deriving Repr

/-- The pending attribute of a method, before its markers and its default are known. -/
def Pending.ofMethod (m : Method) : Pending :=
  { name := m.name, returnType := m.returnType, parameters := m.parameters.length,
    isConstructor := m.isConstructor }

/-- Replaces what a marker sets and keeps the rest. -/
def Attribute.override (a : Attribute) (m : AttributeMarker) : Attribute :=
  { a with
    name := m.name.getD a.name
    description := m.description <|> a.description
    valueType := m.valueType <|> a.valueType
    cardinality := (m.cardinality.map Cardinality.mk).getD a.cardinality
    min := m.min <|> a.min
    max := m.max <|> a.max
    defaults := m.defaults <|> a.defaults
    required := m.required.getD a.required
    choices := m.choices.getD a.choices }

/-! ## Settling -/

/-- The text of a default. A class literal is given by its name with dots. -/
def Constant.property : Constant → String
  | .classLiteral name => TypeName.dotted name
  | c => c.text

/-- The texts of a default; those of its items if it is an array. -/
def Constant.properties : Constant → List String
  | .array items => items.map property
  | c => [c.property]

namespace Reader

/-- The choices that an element type offers: the constants of an enumeration. Reports a failing
source. -/
def choices (r : Reader) (owner member element : String) : Reporting (List Choice) :=
  if TypeName.isPrimitive element then return []
  else
    match r.source.lookup element with
    | .found t =>
      return if t.isEnum then t.enumerators.map fun name => ⟨name, name⟩ else []
    | .unknown => return []
    | .failed f => do
      .failure .sourceFailure f
        ("AD for " ++ owner ++ "." ++ member ++ " can not parse option values from type " ++
          element)
      return []

/-- The defaults of an annotation element. There are none if the element is an annotation itself;
a failing source is reported and otherwise passed over. -/
def defaults (r : Reader) (member element : String) (value : Constant) :
    Reporting (Option (List String)) :=
  if TypeName.isPrimitive element || TypeName.isPlatform r.platform element then
    return some value.properties
  else
    match r.source.lookup element with
    | .found t =>
      if t.isAnnotationType then do
        .warning .annotationNested
          ("Nested annotation type found in member " ++ member ++ ", " ++ element)
        return none
      else return some value.properties
    | .unknown => return some value.properties
    | .failed f => do
      .failure .sourceFailure f
        ("Exception looking at annotation type default for element " ++ member ++ " with type " ++
          element)
      return some value.properties

/-- The key of a member, and the revision it needs. The element `value` of an annotation takes the
shorthand key where there is one. -/
def memberKey (shorthand : Option String) (name : String) : PropertyKey :=
  match shorthand with
  | some key => if name = "value" then ⟨key, none⟩ else .ofIdentifier name
  | none => .ofIdentifier name

/-- The attribute of a pending attribute that is accepted, with the key given. -/
def attributeOf (r : Reader) (t : DeclaredType) (id : String) (p : Pending) :
    Reporting Attribute := do
  let mapping ← r.mapType t.name p.name p.returnType
  let choices ← r.choices t.name p.name mapping.element
  let derived : Attribute :=
    { id, name := label p.name, description := none, valueType := mapping.valueType,
      cardinality := mapping.cardinality, min := none, max := none, defaults := none,
      required := true, choices, extensions := p.extensions }
  let a := match p.marker with
    | some m => derived.override m
    | none => derived
  match a.defaults, t.isAnnotationType, p.default with
  | none, true, some value =>
    return { a with defaults := ← r.defaults p.name (TypeName.raw p.returnType) value }
  | _, _, _ => return a

/-- Settles a pending attribute: constructors and members with parameters are errors, any other
member adds an attribute to the draft. -/
def settle (r : Reader) (t : DeclaredType) (shorthand : Option String) (d : Draft) (p : Pending) :
    Reporting Draft :=
  if p.isConstructor then do
    .error .constructorFound
      ("Constructor " ++ p.name ++ " for " ++ t.name ++ "." ++ p.name ++
        " found; only interfaces and annotations allowed for OCDs")
    return d
  else if 0 < p.parameters then do
    .error .parameterizedMember
      ("Element " ++ p.name ++ " for " ++ t.name ++ "." ++ p.name ++
        " has parameters; only no-parameter elements in an OCD interface allowed")
    return d
  else do
    let key := memberKey shorthand p.name
    let d := match key.requires with
      | some wanted => d.raise wanted
      | none => d
    return d.push (← r.attributeOf t (d.prefixed key.key) p)

end Reader

/-! ## Collectors -/

/-- Where a collector stands. -/
inductive Cursor
  /-- Between members: markers belong to the type. -/
  | type
  /-- In a member, which may be a pending attribute. -/
  | member (pending : Option Nat)
  /-- After the end of the type. -/
  | ended
  deriving DecidableEq, Repr

/-- The state of a collector: what it has gathered from the type, and the draft. -/
structure Collector where
  cursor : Cursor := .type
  pending : List Pending := []
  /-- Extension attributes for the object class. -/
  extensions : List Extension := []
  /-- The field that holds the prefix of the keys. -/
  prefixField : Option Field := none
  /-- How many annotation elements other than `value` have no default. Each event moves it by at
  most one, so that 32 bits are enough for it as long as there are fewer than 2 ^ 31 events. It is
  not bounded here. -/
  lacking : Int := 0
  /-- Whether there is an annotation element `value`. -/
  hasValue : Bool := false
  draft : Draft := {}

/-- The name of the static field that holds the prefix of the keys. -/
def prefixFieldName : String := "PREFIX_"

/-- The prefix that a field gives: the text of a final string constant. -/
def Field.keyPrefix? (f : Field) : Option String :=
  if f.isFinal && f.typeName = "java.lang.String" then f.constant.bind Constant.string? else none

namespace Collector

/-- A collector at the start, over a draft. -/
def start (d : Draft) : Collector := { draft := d }

/-- The start of a type. Each thing that is gathered from a type is emptied. -/
def reset (c : Collector) : Collector :=
  { c with
    cursor := .type
    pending := []
    extensions := []
    prefixField := none
    lacking := 0
    hasValue := false }

/-- The start of a type forgets all but the draft. -/
theorem reset_eq_start (c : Collector) : c.reset = start c.draft := rfl

/-! ## Markers -/

/-- An object class marker counts between members, if there is no object class yet, and only on
interfaces. -/
def declare (r : Reader) (t : DeclaredType) (m : ObjectClassMarker) (c : Collector) :
    Reporting Collector :=
  if c.cursor ≠ .type || c.draft.objectClass.isSome then return c
  else if t.isInterface then
    return { c with draft := { c.draft with objectClass := m.objectClass t.name r.floor } }
  else do
    .error .notAnInterface
      ("ObjectClassDefinition applied to non-interface, non-annotation class " ++ t.name)
    return c

/-- An attribute marker belongs to the pending attribute of its member; anywhere else it is out of
place. -/
def describe (t : DeclaredType) (m : AttributeMarker) (c : Collector) : Reporting Collector :=
  match c.cursor with
  | .member (some i) =>
    return { c with pending := c.pending.modify i fun p => { p with marker := some m } }
  | _ => do
    .warning .misplacedAttributeMarker
      ("AttributeDefinition in " ++ t.name ++ " is not attached to an element method")
    return c

/-- Extension attributes belong to the pending attribute of their member. Those on the type or on a
member that is no attribute go to the object class if the type is an interface proper. -/
def extend (t : DeclaredType) (e : Extension) (c : Collector) : Collector :=
  match c.cursor with
  | .member (some i) =>
    { c with pending := c.pending.modify i fun p => { p with extensions := p.extensions ++ [e] } }
  | .type | .member none =>
    if t.kind = .interfaceType then { c with extensions := c.extensions ++ [e] } else c
  | .ended => c

/-- A marker. -/
def mark (r : Reader) (t : DeclaredType) (m : Marker) (c : Collector) : Reporting Collector :=
  match m with
  | .objectClass m => c.declare r t m
  | .attribute m => c.describe t m
  | .foreign m =>
    match r.recognizer m with
    | some e => return c.extend t e
    | none => return c

/-! ## Members -/

/-- A field. Of the root, a static one of the right name may hold the prefix. -/
def enterField (isRoot : Bool) (f : Field) (c : Collector) : Collector :=
  { c with
    cursor := .member none
    prefixField := if f.isStatic && f.name = prefixFieldName && isRoot then some f
      else c.prefixField }

/-- A method. Only those that are not static become pending attributes. -/
def enterMethod (t : DeclaredType) (m : Method) (c : Collector) : Collector :=
  if m.isStatic then { c with cursor := .member none }
  else
    let isValue := m.name = "value"
    { c with
      pending := c.pending ++ [.ofMethod m]
      cursor := .member (some c.pending.length)
      hasValue := c.hasValue || (t.isAnnotationType && isValue)
      lacking := if t.isAnnotationType && !isValue then c.lacking + 1 else c.lacking }

/-- The default of a method. -/
def enterDefault (t : DeclaredType) (m : Method) (value : Constant) (c : Collector) : Collector :=
  let c := if t.isAnnotationType && m.name ≠ "value" then { c with lacking := c.lacking - 1 } else c
  match c.cursor with
  | .member (some i) =>
    { c with pending := c.pending.modify i fun p => { p with default := some value } }
  | _ => c

/-! ## The end of the type -/

/-- Takes the prefix from the field that holds it. Reports a field that holds none. -/
def resolvePrefix (t : DeclaredType) (c : Collector) : Reporting Collector :=
  match c.prefixField with
  | none => return c
  | some f =>
    match f.keyPrefix? with
    | some p =>
      return { c with
        prefixField := none
        draft := { c.draft with keyPrefix := some p }.raise .v1_4 }
    | none => do
      .warning .invalidPrefix
        ("Field " ++ prefixFieldName ++ " in " ++ t.name ++
          " is not a static final String field with a compile-time constant value: " ++
          (f.constant.map Constant.text).getD "null")
      return { c with prefixField := none }

/-- The shorthand key for the element `value`, if all other elements have defaults. -/
def shorthand (t : DeclaredType) (c : Collector) : Option String :=
  if c.hasValue && c.lacking = 0 then some (shorthandKey t.simpleName) else none

/-- The end of the type. Without an object class nothing is settled, and all is kept. -/
def finish (r : Reader) (t : DeclaredType) (isRoot : Bool) (c : Collector) :
    Reporting Collector := do
  let c := { c with cursor := .ended }
  if c.draft.objectClass.isNone then return c
  else
    let c := { c with extensions := [], draft := c.draft.extend c.extensions }
    let c ← if isRoot then c.resolvePrefix t else pure c
    let shorthand := c.shorthand t
    let d := if shorthand.isSome then c.draft.raise .v1_4 else c.draft
    return { c with pending := [], draft := ← c.pending.foldlM (r.settle t shorthand) d }

/-! ## Events -/

/-- One event. -/
def step (r : Reader) (t : DeclaredType) (isRoot : Bool) (c : Collector) (e : Event) :
    Reporting Collector :=
  match e with
  | .typeStart => return c.reset
  | .field f => return c.enterField isRoot f
  | .method m => return c.enterMethod t m
  | .marker m => c.mark r t m
  | .default m value => return c.enterDefault t m value
  | .memberEnd => return { c with cursor := .type }
  | .typeEnd => c.finish r t isRoot

/-- A sequence of events. -/
def run (r : Reader) (t : DeclaredType) (isRoot : Bool) (c : Collector) (events : List Event) :
    Reporting Collector :=
  events.foldlM (step r t isRoot) c

theorem run_nil (r : Reader) (t : DeclaredType) (isRoot : Bool) (c : Collector) :
    c.run r t isRoot [] = pure c := rfl

theorem run_cons (r : Reader) (t : DeclaredType) (isRoot : Bool) (c : Collector) (e : Event)
    (events : List Event) :
    c.run r t isRoot (e :: events) = c.step r t isRoot e >>= (·.run r t isRoot events) := by
  simp [run]

theorem run_append (r : Reader) (t : DeclaredType) (isRoot : Bool) (c : Collector)
    (before after : List Event) :
    c.run r t isRoot (before ++ after) =
      c.run r t isRoot before >>= (·.run r t isRoot after) := by
  simp [run]

end Collector

end Metatype
