import Metatype.Ancestry
import Metatype.Collector

/-!
# Extraction

The object class of a type. The root is collected first. If it declares an object class, the
interfaces it inherits from follow, each once, and add their members as attributes.

* `Reader.collect`: the events of one type, collected into a draft.
* `Reader.read`: the object class of a root.
* `Reader.extract`: the object class of the type of a name, with all that was reported.
-/

namespace Metatype

namespace Reader

/-- Collects a type into a draft. -/
def collect (r : Reader) (isRoot : Bool) (d : Draft) (t : DeclaredType) : Reporting Draft := do
  return (← (Collector.start d).run r t isRoot t.events).draft

/-- The route from a root to its ancestors: all of them are gone on from. -/
def route (r : Reader) : Ancestry.Route :=
  { source := r.source, platform := r.platform, goOn := fun _ => true }

/-- A step on the way: a visited type is collected, anything else is reported. -/
def takeStep (r : Reader) (rootName : String) (d : Draft) (s : Ancestry.Step) : Reporting Draft :=
  match s with
  | .visit t => r.collect (t.name = rootName) d t
  | s => do
    s.report
    return d

/-- The object class of a root. If the root declares none, no ancestor is looked at. -/
def read (r : Reader) (root : DeclaredType) : Reporting (Option ObjectClass) := do
  let d ← r.collect true {} root
  if d.objectClass.isNone then return none
  else
    let above := Ancestry.follow r.route root.name root.interfaces [root.name]
    return (← above.1.foldlM (r.takeStep root.name) d).objectClass

/-- The object class of the type of a name. -/
def readType (r : Reader) (name : String) : Reporting (Option ObjectClass) :=
  match r.source.lookup name with
  | .found root => r.read root
  | .unknown => do
    .error .unresolvedType ("Could not find class " ++ name)
    return none
  | .failed f => do
    .failure .sourceFailure f ("Could not load class " ++ name)
    return none

end Reader

/-- The result of an extraction on its own. -/
structure Extraction where
  objectClass : Option ObjectClass
  report : Report
  deriving DecidableEq, Repr

/-- Whether there is an object class. -/
def Extraction.isFound (e : Extraction) : Bool := e.objectClass.isSome

/-- Extracts the object class of the type of a name. -/
def Reader.extract (r : Reader) (name : String) : Extraction :=
  let (objectClass, report) := (r.readType name).run {}
  { objectClass, report }

end Metatype
