import CastAudit.Disk.Error
import CastAudit.Path

/-!
# The machine around the program

Everything that the program asks of files, directories and its streams is an operation of `Host`, so
the commands are written once, run on the real machine and reasoned about on a tree of files in memory.
-/

namespace CastAudit.Disk

/-- What stands at a path. -/
inductive FileKind where
  | directory
  | other
deriving Repr, BEq, DecidableEq, Inhabited

/-- A name in a directory. -/
structure DirectoryEntry where
  name : Text
  isDirectory : Bool
deriving Repr, BEq, DecidableEq, Inhabited

/-- The operations that the program asks for. A `Handle` is a file open for appending. -/
class Host (m : Type → Type) (Handle : outParam Type) where
  /-- The whole content of a file. -/
  readFile : Text → m (Except Error Text)
  /-- What stands at a path. -/
  inspect : Text → m (Except Error FileKind)
  /-- The names in a directory, sorted by their bytes. -/
  listDirectory : Text → m (Except Error (List DirectoryEntry))
  /-- Makes one directory. -/
  makeDirectory : Text → m (Except Error Unit)
  /-- Opens a file for appending, made if it is not there and emptied if `fresh`. -/
  openAppend : (path : Text) → (fresh : Bool) → m (Except Error Handle)
  /-- Appends to an open file. -/
  append : Handle → Text → m (Except Error Unit)
  /-- Writes a new file in a directory under a name that starts with `stem`, and gives its path. -/
  writeTemporary : (directory stem content : Text) → m (Except Error Text)
  /-- Gives a file another path, replacing a file there. -/
  rename : (source target : Text) → m (Except Error Unit)
  /-- Removes a file, if it is there. -/
  removeFile : Text → m Unit
  /-- The absolute path of the working directory. -/
  workingDirectory : m (Except Error Text)
  /-- The value of an environment variable. -/
  lookUp : Text → m (Option Text)
  /-- Writes to the standard output. -/
  print : Text → m Unit
  /-- Writes to the standard error. -/
  complain : Text → m Unit

variable {m : Type → Type} {Handle : Type} [Monad m] [Host m Handle]

/-- A program with a state of its own asks the same machine. -/
instance {σ : Type} : Host (StateT σ m) Handle where
  readFile path := StateT.lift (Host.readFile path)
  inspect path := StateT.lift (Host.inspect path)
  listDirectory path := StateT.lift (Host.listDirectory path)
  makeDirectory path := StateT.lift (Host.makeDirectory path)
  openAppend path fresh := StateT.lift (Host.openAppend path fresh)
  append file bytes := StateT.lift (Host.append file bytes)
  writeTemporary directory stem content := StateT.lift (Host.writeTemporary directory stem content)
  rename source target := StateT.lift (Host.rename source target)
  removeFile path := StateT.lift (Host.removeFile path)
  workingDirectory := StateT.lift Host.workingDirectory
  lookUp name := StateT.lift (Host.lookUp name)
  print text := StateT.lift (Host.print text)
  complain text := StateT.lift (Host.complain text)

/-- Makes the directories of a path, longest first in the list, down from the first that exists. -/
def makeDirectoriesFrom : List Text → m (Except Error Unit)
  | [] => pure (.ok ())
  | path :: above => do
    match ← Host.inspect path with
    | .ok .directory => return .ok ()
    | .ok .other => return .error (.onPath .makingDirectory path .notDirectory)
    | .error _ =>
      match ← makeDirectoriesFrom above with
      | .error e => return .error e
      | .ok () => Host.makeDirectory path

/-- Makes a directory with all directories that its clean path leads through. -/
def makeDirectories (path : Text) : m (Except Error Unit) := makeDirectoriesFrom (Path.ancestors path)

/-- Makes the directory that is to hold a file; the working directory needs no making. -/
def makeParent (path : Text) : m (Except Error Unit) :=
  let parent := Path.directory path
  if parent == Path.here then pure (.ok ()) else makeDirectories parent

end CastAudit.Disk
