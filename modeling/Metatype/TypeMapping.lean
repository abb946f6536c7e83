import Metatype.CollectionLike
import Metatype.Reader
import Metatype.Text.Blank

/-!
# Return types as attribute types

The return type of a member gives the type and the cardinality of its attribute.

* `T[]` is an array of any length of `T`;
* `C<T>` with a collection `C` is a vector of `T`;
* primitive types and their boxes are the value types of the same name;
* strings, classes, enumerations, concrete classes and, as an option, interfaces are strings.

`Reader.mapType` does this, and reports why where there is no such type.
-/

namespace Metatype

namespace TypeMapping

/-! ## Type arguments -/

/-- The generic interfaces that are collections by name. -/
def genericCollections : List String :=
  ["java.util.Collection", "java.util.Set", "java.util.List", "java.lang.Iterable"]

/-- The name before and the text between the first `<` and a `>` at the end. The name and the text
are not empty, and the text has no line end. -/
def generic? (s : List Char) : Option (List Char × List Char) :=
  match s.dropWhile (· ≠ '<') with
  | [] => none
  | _ :: rest =>
    match rest.reverse with
    | '>' :: inner =>
      let name := s.takeWhile (· ≠ '<')
      if name.isEmpty || inner.isEmpty || inner.contains '\n' then none
      else some (name, inner.reverse)
    | _ => none

/-- Whether no comma stands outside of all `<` and `>`. `depth` counts the ones open; a `>` too
many is passed over. -/
def isSingleArgument (depth : Nat) : List Char → Bool
  | [] => true
  | c :: rest =>
    if c = '<' then isSingleArgument (depth + 1) rest
    else if c = '>' then isSingleArgument (depth - 1) rest
    else if c = ',' ∧ depth = 0 then false
    else isSingleArgument depth rest

/-- Whether a name is that of a collection, by itself or by its declaration. -/
def isCollection (s : Source) (name : String) : Bool :=
  genericCollections.contains name || isCollectionLike s name

/-- The element type of a collection type. -/
def element? (s : Source) (typeText : List Char) : Option (List Char) :=
  match generic? typeText with
  | some (name, argument) =>
    if isSingleArgument 0 argument && isCollection s (String.ofList name) then
      some (TypeName.dottedChars (Text.trim argument))
    else none
  | none => none

/-! ## Value types by name -/

/-- The value type that the name of a type stands for by itself. -/
def valueType? (name : String) : Option ValueType :=
  match name with
  | "boolean" | "java.lang.Boolean" => some .boolean
  | "byte" | "java.lang.Byte" => some .byte
  | "char" | "java.lang.Character" => some .character
  | "short" | "java.lang.Short" => some .short
  | "int" | "java.lang.Integer" => some .integer
  | "long" | "java.lang.Long" => some .long
  | "float" | "java.lang.Float" => some .float
  | "double" | "java.lang.Double" => some .double
  | "java.lang.String" | "java.lang.Class" => some .string
  | _ => none

/-- How a return type is taken apart, before its element is looked at. -/
structure Shape where
  /-- The element type, without type arguments. -/
  element : List Char
  cardinality : Cardinality
  /-- Whether it is an array of collections. -/
  isArrayOfCollections : Bool
  deriving DecidableEq

/-- Takes a return type apart: the array mark, then the collection, then type arguments. -/
def shape (s : Source) (returnType : List Char) : Shape :=
  let trimmed := Text.trim returnType
  let (inner, cardinality) :=
    match TypeName.dropArrayMark? trimmed with
    | some inner => (inner, Cardinality.unboundedArray)
    | none => (trimmed, Cardinality.scalar)
  match element? s inner with
  | some element => ⟨TypeName.beforeArguments element, .vector, !cardinality.isScalar⟩
  | none => ⟨TypeName.beforeArguments inner, cardinality, false⟩

end TypeMapping

/-- What a return type is mapped to. -/
structure TypeMapping where
  /-- Missing where the type has no counterpart, which has been reported then. -/
  valueType : Option ValueType
  cardinality : Cardinality
  /-- The element type, without array marks and type arguments. -/
  element : String
  deriving DecidableEq, Repr

namespace Reader

/-! ## Elements -/

/-- Whether a type that is no value type by name can be written as a string. Reports why not. -/
def acceptsAsString (r : Reader) (name : String) : Reporting Bool :=
  match r.source.lookup name with
  | .found t =>
    if t.isEnum || !t.isAbstract || (t.isInterface && r.options.nested) then return true
    else if t.isInterface then do
      .error .nestedTypeNotEnabled
        ("Nested metatype only allowed with option: nested type " ++ name)
      return false
    else do
      .error .abstractType
        ("Abstract classes not allowed as interface method return values: " ++ name)
      return false
  | .unknown => do
    .error .unresolvedType ("Could not find class for return type " ++ name)
    return false
  | .failed f => do
    .failure .sourceFailure f ("Could not examine class for return type " ++ name)
    return false

/-- The value type of an element type. Reports why there is none. -/
def elementType (r : Reader) (name : String) : Reporting (Option ValueType) :=
  if (TypeName.dropArrayMark? name.toList).isSome then do
    .error .nestedArray ("Can only handle array of depth one, nested type " ++ name)
    return none
  else
    match TypeMapping.valueType? name with
    | some t => return some t
    | none => do
      if ← r.acceptsAsString name then return some .string
      else return none

/-! ## Return types -/

/-- The message for an array of collections. -/
def arrayOfCollections (owner member returnType : String) : String :=
  "AD for " ++ owner ++ "." ++ member ++ " uses an array of collections in return type (" ++
    returnType ++ "), Metatype allows either Vector or array"

/-- The mapping of the return type of a member of `owner`. -/
def mapType (r : Reader) (owner member returnType : String) : Reporting TypeMapping := do
  let shape := TypeMapping.shape r.source returnType.toList
  let element := String.ofList shape.element
  if shape.isArrayOfCollections then
    .error .arrayOfCollection (arrayOfCollections owner member returnType)
    return ⟨none, shape.cardinality, element⟩
  else return ⟨← r.elementType element, shape.cardinality, element⟩

end Reader

end Metatype
