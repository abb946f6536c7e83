/-!
# Access to files

Programs that read files are written against this interface. Its monad says what reading is: a look
into a tree that is at hand, or the real thing.

* `Fault.message`: the wording of what can go wrong with a file.
* `FileAccess`: the questions that can be asked.
-/

namespace Metatype

namespace FileAccess

/-- Why a file cannot be read or written. -/
inductive Fault
  | notFound
  | notDirectory
  | isDirectory
  /-- The path or a name in it is too long. -/
  | nameTooLong
  /-- The path has a null character in it. -/
  | nullInName
  /-- The bytes are not text. -/
  | notText
  /-- Any other fault, in the words of the system. -/
  | other (text : String)
  deriving DecidableEq, Repr

/-- The text of a fault. -/
def Fault.message : Fault → String
  | .notFound => "No such file or directory (os error 2)"
  | .notDirectory => "Not a directory (os error 20)"
  | .isDirectory => "Is a directory (os error 21)"
  | .nameTooLong => "File name too long (os error 36)"
  | .nullInName => "file name contained an unexpected NUL byte"
  | .notText => "stream did not contain valid UTF-8"
  | .other text => text

end FileAccess

/-- Access to files by their paths. -/
structure FileAccess (m : Type → Type) where
  /-- Whether there is a regular file. -/
  isFile : String → m Bool
  /-- Whether there is a directory. -/
  isDirectory : String → m Bool
  /-- The bytes of a file. -/
  read : String → m (Except FileAccess.Fault ByteArray)
  /-- The regular files at a path and below it, each with the action that reads it. The entries of
  each directory come in the order of their names. -/
  filesBelow : String → m (List (String × m (Except FileAccess.Fault ByteArray)))

end Metatype
