/-!
# Names and texts of types

How types are written: names with dots, object descriptors (`Ljava/lang/String;`), type arguments
between `<` and `>`, and one `[]` per array dimension.

* `TypeName.raw`: the name without type arguments and array marks.
* `TypeName.dotted`: the name an object descriptor stands for.
* `TypeName.dotted_of_not_descriptor`: other names are kept.
-/

namespace Metatype.TypeName

/-! ## Kinds of names -/

/-- The names of the primitive types. -/
def primitives : List String :=
  ["boolean", "byte", "char", "short", "int", "long", "float", "double", "void"]

/-- Whether a name is that of a primitive type. -/
def isPrimitive (name : String) : Bool := primitives.contains name

/-- Whether a name starts with one of the given package prefixes. -/
def isPlatform (packages : List String) (name : String) : Bool :=
  packages.any fun package => package.toList.isPrefixOf name.toList

/-! ## Arrays and type arguments -/

/-- The text before one `[]` at its end. -/
def dropArrayMark? (s : List Char) : Option (List Char) :=
  match s.reverse with
  | ']' :: '[' :: rest => some rest.reverse
  | _ => none

/-- Leaves out every `][` that a reversed text starts with. -/
def dropReversedMarks : List Char → List Char
  | ']' :: '[' :: rest => dropReversedMarks rest
  | s => s

/-- The text before all `[]` at its end. -/
def dropArrayMarks (s : List Char) : List Char := (dropReversedMarks s.reverse).reverse

/-- The text before its first `<`. -/
def beforeArguments (s : List Char) : List Char := s.takeWhile (· ≠ '<')

/-- A type text without array marks at its end and without type arguments. -/
def raw (typeText : String) : String :=
  String.ofList (beforeArguments (dropArrayMarks typeText.toList))

/-! ## Object descriptors -/

/-- The name inside an object descriptor, between `L` and `;`. -/
def descriptorName? : List Char → Option (List Char)
  | 'L' :: rest =>
    match rest.reverse with
    | ';' :: name => some name.reverse
    | _ => none
  | _ => none

/-- A name with dots: an object descriptor is taken apart, any other name is kept. -/
def dottedChars (s : List Char) : List Char :=
  match descriptorName? s with
  | some name => name.map fun c => if c = '/' then '.' else c
  | none => s

/-- A name with dots. -/
def dotted (name : String) : String := String.ofList (dottedChars name.toList)

theorem dotted_of_not_descriptor {name : String} (h : descriptorName? name.toList = none) :
    dotted name = name := by
  simp [dotted, dottedChars, h]

/-! ## Enclosing names -/

/-- The part of a name after its last `.` or `$`. -/
def simple (name : String) : String :=
  String.ofList (name.toList.reverse.takeWhile fun c => c ≠ '.' ∧ c ≠ '$').reverse

end Metatype.TypeName
