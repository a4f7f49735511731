import CastAudit.Command

/-!
# The program

The operations of `Host` on the real machine, and the entry point.
-/

namespace CastAudit

open Disk

/-- The string of a text. A text that is no UTF-8 has none, and names no file here. -/
def Text.toString? (t : Text) : Option String := String.fromUTF8? ⟨t.toArray⟩

/-- The reason of an input or output error. -/
def Disk.Refusal.ofError : IO.Error → Refusal
  | .noFileOrDirectory _ _ _ | .noSuchThing _ _ _ => .notFound
  | .alreadyExists _ _ _ => .alreadyExists
  | .permissionDenied _ _ _ => .denied
  | .invalidArgument _ code _ => if code = 36 then .nameTooLong else .invalidArgument
  | .resourceExhausted _ _ _ => .noSpace
  | .inappropriateType _ code _ => if code = 21 then .isDirectory else .notDirectory
  | .unsatisfiedConstraints _ _ => .notEmpty
  | e => .other (toString e)

/-- A file open for appending, with its path. -/
structure RealFile where
  path : Text
  handle : IO.FS.Handle

namespace Disk.Real

/-- Runs an operation on the string of a path. -/
def attempt {α : Type} (path : Text) (refused : Refusal → Error) (f : String → IO α) : IO (Except Error α) := do
  match path.toString? with
  | none => return .error (refused .invalidArgument)
  | some s =>
    try return .ok (← f s)
    catch e => return .error (refused (.ofError e))

/-- What stands at a path. -/
def inspect (path : Text) : IO (Except Error FileKind) :=
  attempt path (.onPath .inspecting path) fun s => do
    let place ← IO.FS.realPath s
    return if (← place.metadata).type == .dir then .directory else .other

def readFile (path : Text) : IO (Except Error Text) := do
  if let .ok .directory := ← inspect path then return .error (.onPath .reading path .isDirectory)
  attempt path (.onPath .opening path) fun s => return (← IO.FS.readBinFile s).toList

/-- The names in a directory, sorted. -/
def listDirectory (path : Text) : IO (Except Error (List DirectoryEntry)) :=
  attempt path (.onPath .opening path) fun s => do
    let place ← IO.FS.realPath s
    let entries ← (← place.readDir).toList.mapM fun e =>
      return (⟨e.fileName, (← e.path.symlinkMetadata).type == .dir⟩ : DirectoryEntry)
    return entries.mergeSort fun a b => !Text.before b.name a.name

/-- Writes a file under a name that no file has. -/
def writeTemporary (directory stem content : Text) : IO (Except Error Text) := do
  let path := directory ++ [Text.slash] ++ stem ++ Text.ofNat (← IO.rand 0 4294967295)
  match ← attempt path (.onPath .opening path) fun s => IO.FS.Handle.mk s .writeNew with
  | .error e => return .error e
  | .ok handle =>
    attempt path (.onPath .writing path) fun _ => do
      handle.write ⟨content.toArray⟩
      handle.flush
      return path

/-- Gives a file another path. -/
def rename (source target : Text) : IO (Except Error Unit) :=
  attempt source (.rename source target) fun s =>
    match target.toString? with
    | some t => IO.FS.rename s t
    | none => throw (.invalidArgument none 22 "")

/-- Removes a file; nothing happens if that fails. -/
def removeFile (path : Text) : IO Unit :=
  discard <| attempt path (.onPath .opening path) fun s => IO.FS.removeFile s

instance : Host IO RealFile where
  readFile := readFile
  inspect := inspect
  listDirectory := listDirectory
  makeDirectory path := attempt path (.onPath .makingDirectory path) fun s => IO.FS.createDir s
  openAppend path fresh := attempt path (.onPath .opening path) fun s =>
    return ⟨path, ← IO.FS.Handle.mk s (if fresh then .write else .append)⟩
  append file bytes := attempt file.path (.onPath .writing file.path) fun _ => do
    file.handle.write ⟨bytes.toArray⟩
    file.handle.flush
  writeTemporary := writeTemporary
  rename := rename
  removeFile := removeFile
  workingDirectory := do
    try return .ok (toString (← IO.currentDir))
    catch e => return .error (.workingDirectory (.ofError e))
  lookUp name := do
    match name.toString? with
    | some s => return (← IO.getEnv s).map Text.ofString
    | none => return none
  print bytes := do (← IO.getStdout).write ⟨bytes.toArray⟩
  complain bytes := do (← IO.getStderr).write ⟨bytes.toArray⟩

end Disk.Real

end CastAudit

/-- Runs the program on its arguments. -/
def main (arguments : List String) : IO UInt32 := do
  let code : Nat ← CastAudit.Command.execute (m := IO) (arguments.map CastAudit.Text.ofString)
  return code.toUInt32
