import Metatype.CommandLine.Run

/-!
# The command line

The program on real files: `metatype-extract --types PATH --root NAME`.
-/

namespace Metatype.CommandLine

open FileAccess (Fault)

/-- The number of an error of the system, and what it says. -/
def systemError? : IO.Error → Option (Nat × String)
  | .noFileOrDirectory _ code text | .interrupted _ code text => some (number code, text)
  | .alreadyExists _ code text | .invalidArgument _ code text | .permissionDenied _ code text
  | .resourceExhausted _ code text | .inappropriateType _ code text | .noSuchThing _ code text =>
    some (number code, text)
  | .otherError code text | .resourceBusy code text | .resourceVanished code text
  | .unsupportedOperation code text | .hardwareFault code text | .unsatisfiedConstraints code text
  | .illegalOperation code text | .protocolError code text | .timeExpired code text =>
    some (number code, text)
  | _ => none
where
  /-- Error numbers may come with a negative sign. -/
  number (code : UInt32) : Nat := code.toInt32.toInt.natAbs

/-- The fault behind an error of the system. -/
def faultOf (error : IO.Error) : Fault :=
  match systemError? error with
  | some (2, _) => .notFound
  | some (20, _) => .notDirectory
  | some (21, _) => .isDirectory
  | some (36, _) => .nameTooLong
  | some (number, text) => .other s!"{text} (os error {number})"
  | none => .other (toString error)

/-- Carries out an action that may fail. -/
def attempt {α : Type} (action : IO α) : IO (Except Fault α) := do
  match ← action.toBaseIO with
  | .ok a => return .ok a
  | .error error => return .error (faultOf error)

/-- What a path leads to, if it leads anywhere. -/
def kind? (path : String) : IO (Option IO.FS.FileType) := do
  if path.isEmpty then return none
  match ← attempt ((← IO.currentDir) / path).metadata with
  | .ok found => return some found.type
  | .error _ => return none

/-- Whether a path itself is a link. -/
def isLink (path : String) : IO Bool := do
  match ← attempt ((← IO.currentDir) / path).symlinkMetadata with
  | .ok found => return (found.type matches .symlink)
  | .error _ => return false

/-- The bytes of a file. -/
def read (path : String) : IO (Except Fault ByteArray) := do
  if path.isEmpty then return .error .notFound
  else if (← kind? path) matches some .dir then return .error .isDirectory
  else attempt (IO.FS.readBinFile ((← IO.currentDir) / path))

/-- The names of the entries of a directory, in order. -/
def entryNames (path : String) : IO (List String) := do
  match ← attempt ((← IO.currentDir) / path).readDir with
  | .ok entries => return (entries.toList.map (·.fileName)).mergeSort fun a b => a ≤ b
  | .error _ => return []

/-- The regular files at a path and below it. Links to directories are not followed. -/
partial def filesBelow (path : String) :
    IO (List (String × IO (Except Fault ByteArray))) := do
  match ← kind? path with
  | some .file => return [(path, read path)]
  | some .dir =>
    let found ← (← entryNames path).mapM fun name => do
      let path := Path.child path name
      if (← isLink path) && ((← kind? path) matches some .dir) then return []
      else filesBelow path
    return found.flatten
  | _ => return []

/-- Access to the files of the system. -/
def files : FileAccess IO where
  isFile path := return (← kind? path) matches some .file
  isDirectory path := return (← kind? path) matches some .dir
  read := read
  filesBelow := filesBelow

/-- The environment variables of this process, where the system lists them and they are text. -/
def environment : IO Environment := do
  match ← attempt (IO.FS.readBinFile "/proc/self/environ") with
  | .error _ => return []
  | .ok bytes =>
    return (((Text.decode? bytes).getD "").splitOn "\x00").map fun entry =>
      let name := entry.toList.takeWhile (· ≠ '=')
      (String.ofList name, String.ofList (entry.toList.drop (name.length + 1)))

/-- The lines of a text file, and none if it cannot be read. -/
def lines (path : String) : IO (List String) := do
  match ← attempt (IO.FS.readBinFile path) with
  | .error _ => return []
  | .ok bytes => return ((Text.decode? bytes).getD "").splitOn "\n"

/-- The home of the user of this process, where the system lists its users in a file. -/
def home : IO (Option String) := do
  let known := (← lines "/proc/self/status").findSome? fun line =>
    match line.splitOn "\t" with
    | "Uid:" :: number :: _ => some number
    | _ => none
  return (← lines "/etc/passwd").findSome? fun line =>
    match line.splitOn ":" with
    | [_, _, number, _, _, home, _] => if known = some number then some home else none
    | _ => none

/-- Carries out a plan. -/
def carryOut (p : Plan) : IO Outcome := do
  match p.file? with
  | none => return p.conclude (.ok ())
  | some (path, text) =>
    return p.conclude (← attempt (IO.FS.writeBinFile ((← IO.currentDir) / path) text.toUTF8))

end Metatype.CommandLine

open Metatype in
def main (arguments : List String) : IO UInt32 := do
  let host : Settings.Host := { home := ← CommandLine.home }
  let plan ← Plan.make CommandLine.files (← CommandLine.environment) arguments host
  let outcome ← CommandLine.carryOut plan
  IO.print outcome.standardOutput
  IO.eprint outcome.standardError
  return outcome.status.toUInt32
