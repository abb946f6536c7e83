import Metatype.Declaration
import Metatype.Label

/-!
# Drafts of object classes

What the types of one extraction share: the object class under construction and the prefix of its
property keys.

* `ObjectClassMarker.objectClass`: the object class that a marker on a type declares.
* `Draft.raise`, `Draft.push`, `Draft.extend`: additions, which do nothing without an object class.
-/

namespace Metatype

/-! ## The declared object class -/

namespace ObjectClassMarker

/-- The configurations that a marker names, in order, each with whether it is that of a factory.
The name `$` stands for the name of the marked type. -/
def pids (m : ObjectClassMarker) (typeName : String) : List (String × Bool) :=
  let named := fun pid => if pid = "$" then typeName else pid
  (m.pid.getD []).map (fun pid => (named pid, false)) ++
    (m.factoryPid.getD []).map fun pid => (named pid, true)

/-- The object class that a marker declares on a type, without attributes yet. What the marker
leaves open is derived from the name of the type. -/
def objectClass (m : ObjectClassMarker) (typeName : String) (floor : Revision) : ObjectClass :=
  let id := m.id.getD typeName
  let name := m.name.getD (label id)
  let localization := m.localization.getD ("OSGI-INF/l10n/" ++ typeName)
  let o := ObjectClass.new id name (m.description.getD "") localization floor
  let o := (m.pids typeName).foldl (fun o p => (o.designate p.1 p.2).1) o
  { o with icons := m.icon.getD [] }

end ObjectClassMarker

/-! ## Drafts -/

/-- The object class under construction and the prefix of its keys. -/
structure Draft where
  /-- Set by the first object class marker. -/
  objectClass : Option ObjectClass := none
  /-- Set by the root type. -/
  keyPrefix : Option String := none
  deriving DecidableEq, Repr, Inhabited

namespace Draft

/-- Raises the revision of the object class. -/
def raise (d : Draft) (wanted : Revision) : Draft :=
  { d with objectClass := d.objectClass.map (·.raise wanted) }

/-- Adds an attribute to the object class. -/
def push (d : Draft) (a : Attribute) : Draft :=
  { d with objectClass := d.objectClass.map (·.push a) }

/-- Adds extension attributes to the object class. -/
def extend (d : Draft) (extensions : List Extension) : Draft :=
  { d with
    objectClass := d.objectClass.map fun o => { o with extensions := o.extensions ++ extensions } }

/-- The property key with the prefix before it, if there is one. -/
def prefixed (d : Draft) (key : String) : String :=
  match d.keyPrefix with
  | some p => p ++ key
  | none => key

end Draft

end Metatype
