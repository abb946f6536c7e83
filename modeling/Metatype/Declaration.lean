import Metatype.Constant
import Metatype.Schema
import Metatype.TypeName

/-!
# Declarations

What is known of a compiled type: its kind, its ancestors, its members and the markers on them.
The declarations of a type are replayed as a sequence of events, in the order

* the start of the type and the markers on it,
* each field with its markers and its end,
* each method with its markers, its default if it has one, and its end,
* the end of the type.

`DeclaredType.events` is that sequence.
-/

namespace Metatype

/-! ## Markers -/

/-- A marker that declares an object class. What is not set is left to be derived. -/
structure ObjectClassMarker where
  id : Option String := none
  name : Option String := none
  description : Option String := none
  localization : Option String := none
  pid : Option (List String) := none
  factoryPid : Option (List String) := none
  icon : Option (List Icon) := none
  deriving DecidableEq, Repr

/-- A marker that overrides what would be derived for an attribute. -/
structure AttributeMarker where
  name : Option String := none
  description : Option String := none
  valueType : Option ValueType := none
  cardinality : Option Int32 := none
  min : Option String := none
  max : Option String := none
  defaults : Option (List String) := none
  required : Option Bool := none
  choices : Option (List Choice) := none
  deriving DecidableEq, Repr

/-- A marker of any other type, with the values set on it. -/
structure ForeignMarker where
  typeName : String
  values : OrderedMap Constant
  deriving Repr, Inhabited

/-- A marker on a type or a member. -/
inductive Marker
  | objectClass (m : ObjectClassMarker)
  | attribute (m : AttributeMarker)
  | foreign (m : ForeignMarker)
  deriving Repr

/-! ## Members -/

/-- A declared field. -/
structure Field where
  name : String := ""
  typeName : String := ""
  isStatic : Bool := false
  isFinal : Bool := false
  /-- Whether the field is a constant of the enumeration that declares it. -/
  isEnumerator : Bool := false
  constant : Option Constant := none
  markers : List Marker := []
  deriving Repr, Inhabited

/-- A declared method, constructor or annotation element. -/
structure Method where
  name : String := ""
  /-- The return type with its type arguments. -/
  returnType : String := ""
  parameters : List String := []
  isStatic : Bool := false
  isConstructor : Bool := false
  default : Option Constant := none
  markers : List Marker := []
  deriving Repr, Inhabited

/-- The return type of a method without array marks and type arguments. -/
def Method.elementType (m : Method) : String := TypeName.raw m.returnType

/-! ## Types -/

/-- The kind of a type. -/
inductive Kind
  | classType
  | interfaceType
  | annotationType
  | enumType
  deriving DecidableEq, Repr, Inhabited

/-- A compiled type. -/
structure DeclaredType where
  name : String := ""
  kind : Kind := .classType
  declaredAbstract : Bool := false
  interfaces : List String := []
  superclass : Option String := none
  /-- Whether there is a public constructor without parameters. -/
  hasPublicConstructor : Bool := false
  markers : List Marker := []
  fields : List Field := []
  methods : List Method := []
  deriving Repr, Inhabited

namespace DeclaredType

/-- Interfaces and annotation types. -/
def isInterface (t : DeclaredType) : Bool :=
  t.kind = .interfaceType || t.kind = .annotationType

/-- Annotation types. -/
def isAnnotationType (t : DeclaredType) : Bool := t.kind = .annotationType

/-- Enumerations. -/
def isEnum (t : DeclaredType) : Bool := t.kind = .enumType

/-- Declared so, or an interface. -/
def isAbstract (t : DeclaredType) : Bool := t.declaredAbstract || t.isInterface

/-- The name without packages and enclosing types. -/
def simpleName (t : DeclaredType) : String := TypeName.simple t.name

/-- The names of the constants of an enumeration, in order. -/
def enumerators (t : DeclaredType) : List String :=
  (t.fields.filter (·.isEnumerator)).map (·.name)

end DeclaredType

/-! ## Events -/

/-- One step of the replay of a type. -/
inductive Event
  | typeStart
  | field (f : Field)
  | method (m : Method)
  | marker (m : Marker)
  | default (m : Method) (value : Constant)
  | memberEnd
  | typeEnd
  deriving Repr

/-- The events of a field. -/
def Field.events (f : Field) : List Event :=
  .field f :: f.markers.map .marker ++ [.memberEnd]

/-- The events of a method. -/
def Method.events (m : Method) : List Event :=
  .method m :: m.markers.map .marker ++ (m.default.map (Event.default m)).toList ++ [.memberEnd]

/-- The events of a type. -/
def DeclaredType.events (t : DeclaredType) : List Event :=
  .typeStart :: t.markers.map .marker ++ t.fields.flatMap Field.events ++
    t.methods.flatMap Method.events ++ [.typeEnd]

end Metatype
