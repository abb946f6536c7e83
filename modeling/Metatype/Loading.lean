import Metatype.Document
import Metatype.Files.Access
import Metatype.Files.Path
import Metatype.Text.Utf8

/-!
# Loading documents from files

A registry is loaded from one document file, or from all the document files of a directory, at any
depth, in the order of their names. Loading stops at the first file that cannot be added.

* `isDocumentName`: which files of a directory are documents.
* `Registry.addFiles`: adds the documents of several files.
* `Registry.load`: loads from a path.
-/

namespace Metatype

/-- Whether a file is a document by its name: its extension is `json`, in lower case. -/
def isDocumentName (path : String) : Bool := Path.extension? path = some "json"

/-- Why a registry cannot be loaded. -/
inductive LoadFault
  | unreadable (fault : FileAccess.Fault)
  | invalid (path : String) (fault : Document.Fault)
  | duplicate (name : String)
  deriving DecidableEq, Repr

namespace LoadFault

/-- The text of a fault and, where a file cannot be read, that of its cause. -/
def messages : LoadFault → List String
  | .unreadable fault => ["IO error: " ++ fault.message, fault.message]
  | .invalid path fault => ["Invalid descriptor file " ++ path ++ ": " ++ fault.message]
  | .duplicate name => [(Registry.Fault.duplicate name).message]

end LoadFault

namespace Registry

variable {m : Type → Type} [Monad m]

/-! ## Files -/

/-- The text of a file that was read. -/
def textOf (content : Except FileAccess.Fault ByteArray) : Except FileAccess.Fault String :=
  match content with
  | .error fault => .error fault
  | .ok bytes =>
    match Text.decode? bytes with
    | some text => .ok text
    | none => .error .notText

/-- Adds the document of a file that was read. -/
def addFile (r : Registry) (path : String) (content : Except FileAccess.Fault ByteArray) :
    Except LoadFault Registry :=
  match textOf content with
  | .error fault => .error (.unreadable fault)
  | .ok text =>
    match r.addDocument text with
    | (r, .ok _) => .ok r
    | (_, .error (.document fault)) => .error (.invalid path fault)
    | (_, .error (.duplicate name)) => .error (.duplicate name)

/-- Adds the documents of files in order, up to the first one that cannot be added. -/
def addFiles (r : Registry) :
    List (String × m (Except FileAccess.Fault ByteArray)) → m (Except LoadFault Registry)
  | [] => pure (.ok r)
  | (path, content) :: rest => do
    match r.addFile path (← content) with
    | .ok r => r.addFiles rest
    | .error fault => pure (.error fault)

/-! ## Paths -/

/-- The registry of one document file. -/
def loadFile (files : FileAccess m) (path : String) : m (Except LoadFault Registry) :=
  empty.addFiles [(path, files.read path)]

/-- The registry of the document files in a directory. There need not be such a directory. -/
def loadDirectory (files : FileAccess m) (path : String) : m (Except LoadFault Registry) := do
  let found ← files.filesBelow path
  empty.addFiles (found.filter fun file => isDocumentName file.1)

/-- The registry of a path, be it a directory or a file. -/
def load (files : FileAccess m) (path : String) : m (Except LoadFault Registry) := do
  if ← files.isDirectory path then loadDirectory files path else loadFile files path

end Registry

end Metatype
