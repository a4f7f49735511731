import CastAudit.Store.Records
import CastAudit.Text.Lines

/-!
# The failure list

The paths of logs to be scanned again, one per line. Writing skips paths that were written before in the
same call, reading those that were read before.
-/

namespace CastAudit.Store

open Disk (Host)

/-- The distinct paths, empty ones left out. -/
def distinctFilled (paths : List Text) : List Text := (paths.filter fun p => !p.isEmpty).eraseDups

/-- Writes paths to the list at `path`, after those already there unless `fresh`. -/
def writeFailures {m : Type → Type} {Handle : Type} [Monad m] [Host m Handle] (path : Text)
    (paths : List Text) (fresh : Bool) : m (Except Fault Unit) := do
  match ← openOutput path fresh with
  | .error e => return .error e
  | .ok handle =>
    let bytes := Text.unlines (distinctFilled paths)
    match ← Host.append handle bytes with
    | .ok () => return .ok ()
    | .error e =>
      let problem : StoreProblem := if bytes.length > bufferSize then .cannotWriteList else .cannotFlushList
      return .error (.store path problem (some (.file e)))

def failuresOf (path content : Text) : Except Fault (List Text) :=
  let input := Lines.read Lines.narrow content
  if input.tooLong then .error (.store path .cannotReadList (some .longLine))
  else .ok (distinctFilled (input.lines.map Text.trim))

def readFailures {m : Type → Type} {Handle : Type} [Monad m] [Host m Handle] (path : Text) :
    m (Except Fault (List Text)) := do
  match ← Host.readFile path with
  | .error e =>
    let problem : StoreProblem := if e.isOpening then .cannotOpenList else .cannotReadList
    return .error (.store path problem (some (.file e)))
  | .ok content => return failuresOf path content

end CastAudit.Store
