import Metatype.Declaration

/-!
# Recognizers of extension markers

A recognizer claims markers that have no meaning here and turns their values into extension
attributes.

* `Registrations.recognizer`: claims the marker types that are registered.
* `Recognizer.none`: claims nothing.
-/

namespace Metatype

/-- Decides whether a marker contributes extension attributes, and which. -/
abbrev Recognizer := ForeignMarker → Option Extension

/-- Claims no marker. -/
def Recognizer.none : Recognizer := fun _ => Option.none

/-! ## Values -/

mutual

/-- The text of a value on an extension marker; the items of arrays are separated by commas. -/
def Constant.listed : Constant → String
  | .array items => ",".intercalate (listedAll items)
  | c => c.text

/-- The texts of several values. -/
def Constant.listedAll : List Constant → List String
  | [] => []
  | c :: rest => c.listed :: listedAll rest

end

/-! ## Registrations -/

/-- A marker type with the namespace and prefix of its attributes. -/
structure Registration where
  marker : String
  namespaceUri : String
  namespacePrefix : String
  deriving DecidableEq, Repr

/-- Marker types in the order of their registration. -/
structure Registrations where
  entries : List Registration := []
  deriving DecidableEq, Repr, Inhabited

namespace Registrations

/-- Registers a marker type; an earlier registration of the type gives way. -/
def register (r : Registrations) (entry : Registration) : Registrations :=
  ⟨r.entries.filter (·.marker ≠ entry.marker) ++ [entry]⟩

/-- Registrations made one after another. -/
def ofList (entries : List Registration) : Registrations := entries.foldl register {}

/-- Whether nothing is registered. -/
def isEmpty (r : Registrations) : Bool := r.entries.isEmpty

/-- The registration of a marker type. -/
def find? (r : Registrations) (marker : String) : Option Registration :=
  r.entries.find? (·.marker = marker)

/-- Claims the markers whose type is registered. -/
def recognizer (r : Registrations) : Recognizer := fun m =>
  (r.find? m.typeName).map fun entry =>
    ⟨m.typeName, entry.namespaceUri, entry.namespacePrefix, m.values.map Constant.listed⟩

end Registrations

end Metatype
