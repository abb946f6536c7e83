import Metatype.OrderedMap
import Metatype.Revision

/-!
# Schemas

The result of an extraction: an object class definition with its attribute definitions, the
configurations it is designated for, its icons and its extension attributes.

* `ObjectClass.raise`: raises the revision, never lowers it.
* `ObjectClass.designate`: adds a designation unless the configuration has it.
-/

namespace Metatype

/-! ## Value types and cardinality -/

/-- The type of an attribute's values. -/
inductive ValueType
  | boolean
  | byte
  | character
  | short
  | integer
  | long
  | float
  | double
  | string
  deriving DecidableEq, Repr, Inhabited

namespace ValueType

/-- All value types. -/
def all : List ValueType :=
  [.boolean, .byte, .character, .short, .integer, .long, .float, .double, .string]

/-- The name of a value type in documents. -/
def text : ValueType → String
  | .boolean => "Boolean"
  | .byte => "Byte"
  | .character => "Character"
  | .short => "Short"
  | .integer => "Integer"
  | .long => "Long"
  | .float => "Float"
  | .double => "Double"
  | .string => "String"

/-- The value type of a name. -/
def ofText? (s : String) : Option ValueType := all.find? (·.text = s)

@[simp]
theorem ofText?_text (t : ValueType) : ofText? t.text = some t := by cases t <;> decide

end ValueType

/-- How many values an attribute has: zero stands for exactly one, a positive number for an array
of at most so many, a negative one for a vector. -/
structure Cardinality where
  count : Int32
  deriving DecidableEq, Repr

namespace Cardinality

/-- Exactly one value. -/
def scalar : Cardinality := ⟨0⟩

/-- An array of any length. -/
def unboundedArray : Cardinality := ⟨Int32.maxValue⟩

/-- A vector of any length. -/
def vector : Cardinality := ⟨Int32.minValue⟩

/-- Whether there is exactly one value. -/
def isScalar (c : Cardinality) : Bool := c.count = 0

/-- Whether the values form a vector. -/
def isVector (c : Cardinality) : Bool := c.count < 0

/-- The number as text. -/
def text (c : Cardinality) : String := toString c.count.toInt

end Cardinality

/-! ## Parts of a schema -/

/-- A choice offered for an attribute. -/
structure Choice where
  label : String
  value : String
  deriving DecidableEq, Repr

/-- The binding of a configuration to an object class. -/
structure Designate where
  /-- The identity of the object class. -/
  objectClass : String
  pid : String
  /-- Whether the configuration is that of a factory. -/
  factory : Bool
  deriving DecidableEq, Repr

/-- An icon and its size. -/
structure Icon where
  resource : String
  size : Int32
  deriving DecidableEq, Repr

/-- Attributes in a namespace of their own that a marker contributes. -/
structure Extension where
  /-- The type of the marker. -/
  marker : String
  namespaceUri : String
  namespacePrefix : String
  attributes : OrderedMap String
  deriving DecidableEq, Repr

/-- The definition of one attribute. -/
structure Attribute where
  /-- The property key. -/
  id : String
  /-- The label. -/
  name : String
  description : Option String
  /-- Missing if the declared type has no counterpart. -/
  valueType : Option ValueType
  cardinality : Cardinality
  min : Option String
  max : Option String
  defaults : Option (List String)
  required : Bool
  choices : List Choice
  extensions : List Extension
  deriving DecidableEq, Repr

/-! ## Object classes -/

/-- The definition of an object class. -/
structure ObjectClass where
  id : String
  name : String
  description : String
  localization : String
  attributes : List Attribute
  designates : List Designate
  icons : List Icon
  extensions : List Extension
  /-- The earliest revision that can express the definition. -/
  revision : Revision
  deriving DecidableEq, Repr

namespace ObjectClass

/-- An object class without attributes, for a revision or later. -/
def new (id name description localization : String) (floor : Revision) : ObjectClass :=
  ⟨id, name, description, localization, [], [], [], [], floor⟩

/-- Raises the revision to the given one if that is later. -/
def raise (o : ObjectClass) (wanted : Revision) : ObjectClass :=
  { o with revision := o.revision.raise wanted }

/-- Whether a configuration is designated. -/
def isDesignated (o : ObjectClass) (pid : String) (factory : Bool) : Bool :=
  o.designates.any fun d => d.pid = pid && d.factory = factory

/-- Designates a configuration. Tells whether it is new; one that is designated already changes
nothing. -/
def designate (o : ObjectClass) (pid : String) (factory : Bool) : ObjectClass × Bool :=
  if o.isDesignated pid factory then (o, false)
  else ({ o with designates := o.designates ++ [⟨o.id, pid, factory⟩] }, true)

/-- Adds an attribute after the others. -/
def push (o : ObjectClass) (a : Attribute) : ObjectClass :=
  { o with attributes := o.attributes ++ [a] }

/-- The first attribute with a property key. -/
def attribute? (o : ObjectClass) (id : String) : Option Attribute :=
  o.attributes.find? (·.id = id)

theorem revision_le_raise (o : ObjectClass) (wanted : Revision) :
    o.revision ≤ (o.raise wanted).revision :=
  Revision.le_raise_left _ _

theorem designate_of_isDesignated {o : ObjectClass} {pid : String} {factory : Bool}
    (h : o.isDesignated pid factory = true) : o.designate pid factory = (o, false) := by
  simp [designate, h]

end ObjectClass

end Metatype
