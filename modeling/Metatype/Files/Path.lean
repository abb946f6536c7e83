/-!
# Paths

Paths are text: names with slashes between them. A path that starts with a slash starts at the
root of all files, any other one at the working directory.

* `Path.isTooLong`, `Path.isLongName`: the limits on the bytes of a path and of a name.
* `Path.child`: the path of an entry of a directory.
* `Path.extension?`: what follows the last dot of a file name.
-/

namespace Metatype.Path

/-- The text between slashes. -/
def split : List Char → List (List Char)
  | [] => [[]]
  | c :: rest =>
    if c = '/' then [] :: split rest
    else
      match split rest with
      | [] => [[c]]
      | part :: parts => (c :: part) :: parts

theorem split_ne_nil (s : List Char) : split s ≠ [] := by
  cases s with
  | nil => simp [split]
  | cons c rest =>
    rw [split]
    split
    · simp
    · split <;> simp

/-- The parts of a path. A slash at either end makes an empty part. -/
def parts (path : String) : List String := (split path.toList).map String.ofList

/-- Whether a path starts at the root. -/
def isAbsolute (path : String) : Bool := path.toList.head? = some '/'

/-- Whether a path has more bytes than a path may have. -/
def isTooLong (path : String) : Bool := 4095 < path.utf8ByteSize

/-- Whether a name has more bytes than an entry of a directory may have. -/
def isLongName (name : String) : Bool := 255 < name.utf8ByteSize

/-- The path of an entry of a directory. -/
def child (directory name : String) : String :=
  if directory.toList.getLast? = some '/' then directory ++ name else directory ++ "/" ++ name

/-- The last part of a path. -/
def fileName (path : String) : String := (parts path).getLastD ""

/-- What follows the last dot of a file name, if anything stands before that dot. -/
def extension? (path : String) : Option String :=
  let name := (fileName path).toList.reverse
  match name.dropWhile (· ≠ '.') with
  | '.' :: _ :: _ => some (String.ofList (name.takeWhile (· ≠ '.')).reverse)
  | _ => none

/-- The path with an extension added to its file name, if it ends in one. Slashes and single dots
at the end do not count. The working directory has no name here, so a path with no name in it, such
as the empty one, is not completed by the name of that directory. -/
def withExtension? (path ending : String) : Option String :=
  let rec named : List String → Option (List String)
    | [] => none
    | name :: before =>
      if name = "" ∨ name = "." then named before
      else if name = ".." then none
      else some ((name ++ "." ++ ending) :: before)
  (named (parts path).reverse).map fun names => "/".intercalate names.reverse

end Metatype.Path
