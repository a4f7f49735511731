import CastAudit.Report.Schemas
import CastAudit.Schema.Files

/-!
# What commands write

Texts and reports go to a file or, without one, to the standard output. A report in JSON is checked
against its schema, if that is found; a report that breaks it is only warned of.
-/

namespace CastAudit.Command

open Disk (Host)

/-- The form of a report. -/
inductive Format where
  | text
  | json
deriving Repr, BEq, DecidableEq, Inhabited

def Format.find (name : Text) : Except Fault Format :=
  if name == Text.ofString "text" then .ok .text
  else if name == Text.ofString "json" then .ok .json
  else .error (.plain ("unsupported --format " ++ Text.quoted name ++ " (want text or json)"))

variable {m : Type → Type} {Handle : Type} [Monad m] [Host m Handle]

def isStandard (path : Text) : Bool := path.isEmpty || path == [Text.dash]

/-- Writes a file anew, with its directory made if need be. -/
def writeFile (path content : Text) : m (Except Fault Unit) := do
  match ← Disk.makeParent path with
  | .error e => return .error (.within ("failed to create output directory " ++ Path.directory path) (.file e))
  | .ok () =>
    match ← Host.openAppend path true with
    | .error e => return .error (.within ("failed to create output file " ++ path) (.file e))
    | .ok handle =>
      match ← Host.append handle content with
      | .error e => return .error (.within ("failed to write output file " ++ path) (.file e))
      | .ok () => return .ok ()

/-- Writes to a file or to the standard output. -/
def writeOutput (path content : Text) : m (Except Fault Unit) := do
  if isStandard path then
    Host.print content
    return .ok ()
  else writeFile path content

/-- Warns of a report that breaks the schema found for it. -/
def warnOfViolations (report : Report) : m Unit := do
  match ← Schema.resolve report.schemaPath with
  | none => return ()
  | some path =>
    match ← Schema.validateDocument path report.toJson with
    | .ok () => return ()
    | .error f => Host.complain ("Warning: Output validation failed: " ++ f.message ++ "\n")

def writeReport (path : Text) (report : Report) : m (Except Fault Unit) := do
  match ← writeOutput path (report.print ++ [Text.lf]) with
  | .error f => return .error f
  | .ok () =>
    warnOfViolations report
    return .ok ()

/-- Prints a line of detail, if details are wanted. -/
def detail (verbose : Bool) (line : Text) : m Unit :=
  if verbose then Host.print ("[VERBOSE] " ++ line ++ "\n") else pure ()

/-- Prints the lines of a box, if details are wanted. -/
def detailBox (verbose : Bool) (lines : List Text) : m Unit :=
  if verbose then Host.print lines.flatten else pure ()

end CastAudit.Command
