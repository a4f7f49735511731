import CastAudit.Disk.Host
import CastAudit.Header.Fields
import CastAudit.Location
import CastAudit.Text.Lines

/-!
# Scanning a log

A finding takes two lines of a log: a header and, directly below it, a source location. `Scan.step`
handles one line with the record that awaits its location, if any; `Scan.ofContent` runs over a whole
log and stops at a line of forbidden length, keeping what came before it.
-/

namespace CastAudit

/-- What was captured from one log. -/
structure Scan where
  packageId : Text := []
  logPath : Text := []
  records : List Record := []
  failures : List Failure := []
  /-- The number of lines read. -/
  lines : Nat := 0
  /-- The number of header lines among them. -/
  headers : Nat := 0
deriving Repr, BEq, DecidableEq, Inhabited

namespace Scan

/-- What a scan is about: the package, the path of the log and the kinds looked for. -/
structure Source where
  packageId : Text
  logPath : Text
  kinds : List Kind
deriving Repr, BEq, DecidableEq, Inhabited

def Source.failure (src : Source) (line : Nat) (reason : Text) : Failure :=
  ⟨src.packageId, src.logPath, line, reason⟩

/-- The scan under way: records and failures last first, and the record that awaits its location. -/
structure State where
  records : List Record := []
  failures : List Failure := []
  lines : Nat := 0
  headers : Nat := 0
  pending : Option Record := none
deriving Repr, BEq, DecidableEq, Inhabited

/-- The reason of a failure for a header of a kind without a location below it. -/
def missingLocation (kind : Kind) : Text :=
  "parse error: " ++ kind.tag ++ " header: missing source location"

/-- A line that announces a kind. A record still pending is dropped. -/
def header (src : Source) (st : State) (line : Text) (kind : Kind) : State :=
  match Header.extract line kind with
  | .ok r =>
    { st with
      headers := st.headers + 1
      pending := some { r with packageId := src.packageId, logPath := src.logPath, line := (st.lines : Int) } }
  | .error e =>
    { st with
      headers := st.headers + 1
      pending := none
      failures := src.failure st.lines e.message :: st.failures }

/-- The line below the header of a pending record. -/
def continuation (src : Source) (st : State) (line : Text) (r : Record) : State :=
  let r := { r with location := Location.extract line r.kind }
  if r.complete then { st with pending := none, records := r :: st.records }
  else
    { st with
      pending := none
      failures := ⟨src.packageId, src.logPath, r.line, missingLocation r.kind⟩ :: st.failures }

def step (src : Source) (st : State) (line : Text) : State :=
  let st := { st with lines := st.lines + 1 }
  match Header.classify line src.kinds with
  | .none =>
    match st.pending with
    | some r => continuation src st line r
    | none => st
  | kind => header src st line kind

/-- What has been captured so far. -/
def State.toScan (src : Source) (st : State) : Scan where
  packageId := src.packageId
  logPath := src.logPath
  records := st.records.reverse
  failures := st.failures.reverse
  lines := st.lines
  headers := st.headers

def ofLines (src : Source) (lines : List Text) : Scan := (lines.foldl (step src) {}).toScan src

/-- A scan that a problem stopped at the line after the last one read. -/
def stopped (src : Source) (scan : Scan) (problem : ScanProblem) (cause : Fault) : Scan × Option Fault :=
  ({ scan with failures := scan.failures ++ [src.failure (scan.lines + 1) problem.message] },
   some (.scan src.logPath problem (some cause)))

/-- The scan of a log's content, and the fault that stopped it. -/
def ofContent (src : Source) (content : Text) : Scan × Option Fault :=
  let input := Lines.read Lines.wide content
  let scan := ofLines src input.lines
  if input.tooLong then stopped src scan .lineTooLong .longLine else (scan, none)

/-- The scan of a log that was opened and cannot be read. -/
def ofUnreadable (src : Source) (error : Disk.Error) : Scan × Option Fault :=
  stopped src (ofLines src []) .cannotRead (.file error)

/-- The scan of the log at its path. A log that cannot be opened has no scan. -/
def load {m : Type → Type} {Handle : Type} [Monad m] [Disk.Host m Handle] (src : Source) :
    m (Except Fault (Scan × Option Fault)) := do
  match ← Disk.Host.readFile src.logPath with
  | .ok content => return .ok (ofContent src content)
  | .error e =>
    if e.isOpening then return .error (.scan src.logPath .cannotOpen (some (.file e)))
    else return .ok (ofUnreadable src e)

end Scan

end CastAudit
