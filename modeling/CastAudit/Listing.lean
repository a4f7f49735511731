import CastAudit.Disk.Host
import CastAudit.Fault
import CastAudit.Package
import CastAudit.Text.Lines

/-!
# Corpus listings

A listing names the packages of a run with the logs of each, in the order of all later output. It comes
from the directories below a root, from a file of `package,log_path` lines, or from the log paths of a
failure list, where the package is the directory that holds the log.
-/

namespace CastAudit

/-- A package with its logs. -/
structure ListingEntry where
  packageId : Text := []
  logPaths : List Text := []
deriving Repr, BEq, DecidableEq, Inhabited

def ListingEntry.package (e : ListingEntry) : Package := Package.ofId e.packageId

abbrev Listing := List ListingEntry

namespace Listing

open Disk (Host)

def packages (l : Listing) : List Package := l.map ListingEntry.package

def logCount (l : Listing) : Nat := l.foldr (fun e n => e.logPaths.length + n) 0

def lists (l : Listing) (packageId : Text) : Bool := l.any fun e => e.packageId == packageId

/-- The listing with one more log: added to the entry of its package, or in an entry of its own. -/
def add (l : Listing) (packageId logPath : Text) : Listing :=
  if l.lists packageId then
    l.map fun e => if e.packageId == packageId then { e with logPaths := e.logPaths ++ [logPath] } else e
  else l ++ [⟨packageId, [logPath]⟩]

/-! ## from a root directory -/

def entryOf (root logName directory : Text) : ListingEntry :=
  ⟨directory, [Path.join [root, directory, logName]]⟩

/-- The listing of the names in a root, in the order given. Files and names that start with a full stop
are no packages. -/
def ofDirectory (root logName : Text) (names : List Disk.DirectoryEntry) : Except Fault Listing :=
  (names.filter fun d => d.isDirectory && d.name.head? != some Text.dot).mapM fun d =>
    let entry := entryOf root logName d.name
    match entry.package.brokenRules with
    | [] => .ok entry
    | broken => .error (.listing root (.badDirectory d.name) (some (.rules broken)))

/-- The listing of all packages below a root. Whether their logs exist is not asked. -/
def discover {m : Type → Type} {Handle : Type} [Monad m] [Host m Handle] (root logName : Text) :
    m (Except Fault Listing) := do
  match ← Host.listDirectory root with
  | .error e => return .error (.listing root .cannotReadRoot (some (.file e)))
  | .ok names => return ofDirectory root logName names

/-! ## from a listing file -/

/-- The package and the log of a line, or nothing for a blank line or a comment. -/
def parseLine (line : Text) : Except Unit (Option (Text × Text)) :=
  let line := Text.trim line
  if line.isEmpty || line.head? == some 0x23 then .ok none
  else match Text.cut? line [Text.comma] with
    | none => .error ()
    | some (package, log) =>
      let package := Text.trim package
      let log := Text.trim log
      if package.isEmpty || log.isEmpty then .error () else .ok (some (package, log))

/-- One numbered line of the listing file at `path`. A package is checked where it is first named. -/
def addLine (path : Text) (l : Listing) (numbered : Text × Nat) : Except Fault Listing :=
  let (line, number) := numbered
  match parseLine line with
  | .error () => .error (.listing path (.badLine number) none)
  | .ok none => .ok l
  | .ok (some (package, log)) =>
    if l.lists package then .ok (l.add package log)
    else match (Package.ofId package).brokenRules with
      | [] => .ok (l.add package log)
      | broken => .error (.listing path (.badPackage number package) (some (.rules broken)))

/-- The listing of a file's lines. -/
def ofLines (path : Text) (lines : List Text) : Except Fault Listing :=
  (lines.zipIdx 1).foldlM (addLine path) []

/-- The listing of a file's content. -/
def ofContent (path content : Text) : Except Fault Listing := do
  let input := Lines.read Lines.narrow content
  let listing ← ofLines path input.lines
  if input.tooLong then .error (.listing path .cannotRead (some .longLine)) else .ok listing

def load {m : Type → Type} {Handle : Type} [Monad m] [Host m Handle] (path : Text) :
    m (Except Fault Listing) := do
  match ← Host.readFile path with
  | .error e =>
    return .error (.listing path (if e.isOpening then .cannotOpen else .cannotRead) (some (.file e)))
  | .ok content => return ofContent path content

/-! ## from a failure list -/

/-- The package of a log: the name of the directory that holds it. -/
def packageOfLog (path : Text) : Text := Path.name (Path.directory path)

/-- The distinct trimmed texts that are not blank, in order of first appearance. -/
def distinctPaths (paths : List Text) : List Text :=
  ((paths.map Text.trim).filter fun p => !p.isEmpty).eraseDups

/-- The listing of failed logs. -/
def ofFailures (paths : List Text) : Listing :=
  (distinctPaths paths).foldl (fun l p => l.add (packageOfLog p) p) []

end Listing

end CastAudit
