import CastAudit.Csv.Reader
import CastAudit.Csv.Writer
import CastAudit.Disk.Host
import CastAudit.Fault
import CastAudit.Record

/-!
# The record store

Records are kept as rows of ten fields in a file that only grows, unless it is opened fresh. A writer
whose file refused a write refuses all later ones; a closed writer refuses all that it is given.
-/

namespace CastAudit.Store

open Disk (Host)

/-! ## rows -/

/-- The number of fields of a row. -/
abbrev fieldCount : Nat := 10

def rowOf (r : Record) : List Text :=
  [r.packageId, r.kind.tag, r.caller, r.fromType, r.toType, r.mutability, r.note, r.location, r.logPath,
   Text.ofInt r.line]

/-- The line number in a row. A number out of range reads as the bound that it passes, any other text
as zero. -/
def lineOf (s : Text) : Int :=
  match Text.readStoredInt s with
  | .ok n => n
  | .error (.outOfRange nearest) => nearest
  | .error .malformed => 0

def ofRow (path : Text) (row : Csv.Row) : Except Fault Record :=
  match row with
  | [packageId, tag, caller, fromType, toType, mutability, note, location, logPath, line] =>
    match Kind.ofTag? tag.text with
    | none => .error (.store path (.badRow tag.line) (some (.unknownKind tag.text)))
    | some kind =>
      .ok { kind, packageId := packageId.text, caller := caller.text, fromType := fromType.text,
            toType := toType.text, mutability := mutability.text, note := note.text,
            location := location.text, logPath := logPath.text, line := lineOf line.text }
  | _ => .error (.store path .cannotParseRecords none)

def recordsOf (path content : Text) : Except Fault (List Record) := do
  let reading := Csv.read { fieldCount := some fieldCount } content
  let records ← reading.rows.mapM (ofRow path)
  match reading.error with
  | some e => .error (.store path .cannotParseRecords (some (.row e)))
  | none => .ok records

/-! ## files -/

/-- Opens a file for appending, with its directory made if need be. -/
def openOutput {m : Type → Type} {Handle : Type} [Monad m] [Host m Handle] (path : Text) (fresh : Bool) :
    m (Except Fault Handle) := do
  match ← Disk.makeParent path with
  | .error e => return .error (.store path .cannotMakeDirectory (some (.file e)))
  | .ok () =>
    match ← Host.openAppend path fresh with
    | .error e => return .error (.store path .cannotOpenToAppend (some (.file e)))
    | .ok handle => return .ok handle

/-- The number of bytes gathered before they are written. -/
abbrev bufferSize : Nat := 4096

/-- A writer of records. -/
structure Writer (Handle : Type) where
  path : Text
  handle : Handle
  closed : Bool := false
  /-- The refusal that the writer keeps repeating. -/
  stuck : Option Disk.Error := none

namespace Writer

def openAt {m : Type → Type} {Handle : Type} [Monad m] [Host m Handle] (path : Text) (fresh : Bool) :
    m (Except Fault (Writer Handle)) := do
  match ← openOutput path fresh with
  | .error e => return .error e
  | .ok handle => return .ok { path, handle }

/-- Writes bytes to the file of a writer, if it has one. -/
def send {m : Type → Type} {Handle : Type} [Monad m] [Host m Handle] (w : Writer Handle) (bytes : Text) :
    m (Except Disk.Error Unit) :=
  if bytes.isEmpty then pure (.ok ())
  else if w.closed then pure (.error (.onPath .writing w.path .closed))
  else Host.append w.handle bytes

/-- Appends records. A refusal is met while writing when the records fill the buffer, else when it is
emptied at the end. -/
def write {m : Type → Type} {Handle : Type} [Monad m] [Host m Handle] (w : Writer Handle)
    (records : List Record) : m (Except Fault Unit × Writer Handle) := do
  match w.stuck with
  | some e =>
    let problem : StoreProblem := if records.isEmpty then .cannotFlushRecords else .cannotWriteRecord
    return (.error (.store w.path problem (some (.file e))), w)
  | none =>
    let bytes := Csv.writeRows (records.map rowOf)
    match ← w.send bytes with
    | .ok () => return (.ok (), w)
    | .error e =>
      let problem : StoreProblem :=
        if bytes.length > bufferSize then .cannotWriteRecord else .cannotFlushRecords
      return (.error (.store w.path problem (some (.file e))), { w with stuck := some e })

/-- Closes a writer; closing it again changes nothing. -/
def close {Handle : Type} (w : Writer Handle) : Writer Handle := { w with closed := true }

end Writer

def readRecords {m : Type → Type} {Handle : Type} [Monad m] [Host m Handle] (path : Text) :
    m (Except Fault (List Record)) := do
  match ← Host.readFile path with
  | .error e =>
    let problem : StoreProblem := if e.isOpening then .cannotOpenRecords else .cannotParseRecords
    return .error (.store path problem (some (.file e)))
  | .ok content => return recordsOf path content

end CastAudit.Store
