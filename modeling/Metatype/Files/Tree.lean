import Metatype.Files.Access
import Metatype.Files.Path

/-!
# File trees

Files as a tree that is at hand, and paths as ways through it. Every part of a path but the last
must be a directory; an empty part and a single dot stay where they are, two dots go up. A name that
is too long is refused by the directory in which it is looked up.

* `FileTree.get?_put_self`: what is put under names is found there.
* `FileTree.filesBelow`: the files of a tree in the order of their names.
* `Disk.locate`: where a path leads.
* `Disk.access`, `Disk.write`: reading and writing.
-/

namespace Metatype

open FileAccess (Fault)

/-- A file, or a directory with its entries. -/
inductive FileTree
  | file (bytes : ByteArray)
  | directory (entries : List (String × FileTree))

namespace FileTree

instance : Inhabited FileTree := ⟨.directory []⟩

/-! ## Nodes by name -/

/-- The node under a list of names. -/
def get? : List String → FileTree → Option FileTree
  | [], t => some t
  | _ :: _, .file _ => none
  | name :: names, .directory entries => (entries.lookup name).bind (get? names)

theorem get?_append (t : FileTree) (names further : List String) :
    t.get? (names ++ further) = (t.get? names).bind (get? further) := by
  induction names generalizing t with
  | nil => rfl
  | cons name names ih =>
    match t with
    | .file bytes => rfl
    | .directory entries =>
      rw [List.cons_append, get?, get?, Option.bind_assoc]
      exact Option.bind_congr fun below _ => ih below

/-- The entries with the one of a name changed, or made from nothing. -/
def changeEntry (change : Option FileTree → FileTree) (name : String) :
    List (String × FileTree) → List (String × FileTree)
  | [] => [(name, change none)]
  | (n, t) :: rest =>
    if n = name then (n, change (some t)) :: rest else (n, t) :: changeEntry change name rest

/-- A node under a list of names, below the one that stands there already. -/
def putBelow (new : FileTree) : List String → Option FileTree → FileTree
  | [], _ => new
  | name :: names, some (.directory entries) =>
    .directory (changeEntry (putBelow new names) name entries)
  | name :: names, _ => .directory (changeEntry (putBelow new names) name [])

/-- The tree with a node put under a list of names. Directories are made where there are none; a
file in the way gives way. -/
def put (t new : FileTree) (names : List String) : FileTree := putBelow new names (some t)

theorem lookup_changeEntry_self (change : Option FileTree → FileTree) (name : String)
    (entries : List (String × FileTree)) :
    (changeEntry change name entries).lookup name = some (change (entries.lookup name)) := by
  induction entries with
  | nil => simp [changeEntry]
  | cons e rest ih =>
    obtain ⟨n, t⟩ := e
    by_cases h : n = name
    · simp [changeEntry, h]
    · have hne : (name == n) = false := by simpa using fun hn => h hn.symm
      simp only [changeEntry, if_neg h, List.lookup_cons, hne]
      exact ih

theorem get?_putBelow_self (new : FileTree) (names : List String) (under : Option FileTree) :
    (putBelow new names under).get? names = some new := by
  induction names generalizing under with
  | nil => simp [putBelow, get?]
  | cons name names ih =>
    match under with
    | some (.directory entries) => simp [putBelow, get?, lookup_changeEntry_self, ih]
    | some (.file _) => simp [putBelow, get?, lookup_changeEntry_self, ih]
    | none => simp [putBelow, get?, lookup_changeEntry_self, ih]

/-- What is put under names is found there. -/
theorem get?_put_self (t new : FileTree) (names : List String) :
    (t.put new names).get? names = some new := get?_putBelow_self new names (some t)

/-! ## The files of a tree -/

mutual

/-- The files of a tree with their paths, the root having the given one. The entries of each
directory come in the order of their names. The limit on the bytes of a path is left aside: a file
is found at any depth. -/
def filesBelow (path : String) : FileTree → List (String × ByteArray)
  | .file bytes => [(path, bytes)]
  | .directory entries =>
    ((filesOfEntries path entries).mergeSort fun a b => a.1 ≤ b.1).flatMap (·.2)

/-- The files of each entry of a directory, under the name of the entry. -/
def filesOfEntries (path : String) :
    List (String × FileTree) → List (String × List (String × ByteArray))
  | [] => []
  | (name, t) :: rest => (name, t.filesBelow (Path.child path name)) :: filesOfEntries path rest

end

end FileTree

/-- A file tree with a working directory, given by the names on the way to it. -/
structure Disk where
  root : FileTree := .directory []
  here : List String := []
  deriving Inhabited

namespace Disk

/-! ## Paths -/

/-- One step of a path, from a node that must be a directory. -/
def step (d : Disk) (names : List String) (part : String) : Except Fault (List String) :=
  match d.root.get? names with
  | none => .error .notFound
  | some (.file _) => .error .notDirectory
  | some (.directory _) =>
    if part = "" ∨ part = "." then .ok names
    else if part = ".." then .ok names.dropLast
    else if Path.isLongName part then .error .nameTooLong
    else .ok (names ++ [part])

/-- Where the parts of a path lead, if it is a path: not empty, not too long, and without null
characters. -/
def follow (d : Disk) (path : String) (parts : List String) : Except Fault (List String) :=
  if path.toList.contains '\x00' then .error .nullInName
  else if path.isEmpty then .error .notFound
  else if Path.isTooLong path then .error .nameTooLong
  else parts.foldlM d.step (if Path.isAbsolute path then [] else d.here)

/-- The node that a path leads to. -/
def locate (d : Disk) (path : String) : Except Fault FileTree :=
  match d.follow path (Path.parts path) with
  | .error fault => .error fault
  | .ok names =>
    match d.root.get? names with
    | some t => .ok t
    | none => .error .notFound

/-! ## Reading -/

/-- The bytes of the file at a path. -/
def read (d : Disk) (path : String) : Except Fault ByteArray :=
  match d.locate path with
  | .ok (.file bytes) => .ok bytes
  | .ok (.directory _) => .error .isDirectory
  | .error fault => .error fault

/-- The files at a path and below it. -/
def filesBelow (d : Disk) (path : String) : List (String × ByteArray) :=
  match d.locate path with
  | .ok t => t.filesBelow path
  | .error _ => []

/-- Access to the files of a tree. Files that are found below a path come with their bytes: their
own paths are not followed again, so the limit on the bytes of a path, which holds for the one that
is asked for, is left aside for them. -/
def access (d : Disk) : FileAccess Id where
  isFile path := match d.locate path with | .ok (.file _) => true | _ => false
  isDirectory path := match d.locate path with | .ok (.directory _) => true | _ => false
  read path := d.read path
  filesBelow path := (d.filesBelow path).map fun file => (file.1, .ok file.2)

/-! ## Writing -/

/-- Where a file is written to: the directory must be there, and the name must be one. -/
def target (d : Disk) (path : String) : Except Fault (List String) :=
  let parts := Path.parts path
  let named := parts.reverse.dropWhile (· = "")
  match d.follow path named.tail.reverse, named.head? with
  | .error fault, _ => .error fault
  | .ok _, none => .error .isDirectory
  | .ok names, some name =>
    match d.root.get? names with
    | none => .error .notFound
    | some (.file _) => .error .notDirectory
    | some (.directory entries) =>
      if name = "." ∨ name = ".." ∨ named.length < parts.length then .error .isDirectory
      else if Path.isLongName name then .error .nameTooLong
      else
        match entries.lookup name with
        | some (.directory _) => .error .isDirectory
        | _ => .ok (names ++ [name])

/-- The disk with a file written. -/
def write (d : Disk) (path : String) (bytes : ByteArray) : Except Fault Disk :=
  (d.target path).map fun names => { d with root := d.root.put (.file bytes) names }

end Disk

end Metatype
