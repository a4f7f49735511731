import CastAudit.Cache
import CastAudit.Listing
import CastAudit.Profile

/-!
# Runs over a corpus

A run scans every log of a listing. Each log has an outcome of its own (`visit`), and `RunResult.ofOutcomes`
merges the outcomes in listing order, so the result does not depend on the order of the visits. Only
clean scans are cached: a log with failures stays to be retried.
-/

namespace CastAudit

/-- A log to be scanned for a package. -/
structure Job where
  packageId : Text
  path : Text
deriving Repr, BEq, DecidableEq, Inhabited

def Listing.jobs (l : Listing) : List Job := l.flatMap fun e => e.logPaths.map fun p => ⟨e.packageId, p⟩

/-- What became of one log. -/
structure Outcome where
  records : List Record := []
  failures : List Failure := []
  /-- The log does not exist. -/
  missing : Bool := false
  /-- The result was taken from the cache. -/
  cached : Bool := false
  lines : Int := 0
  headers : Int := 0
  /-- The cache could not be read or written. -/
  cacheFault : Option Fault := none
deriving Repr, BEq, Inhabited

namespace Outcome

/-- The log does not exist. -/
def absent : Outcome := { missing := true }

/-- The log exists and cannot be read. -/
def unreadable (job : Job) (error : Disk.Error) : Outcome :=
  { failures := [⟨job.packageId, job.path, 0, "failed to read log: " ++ error.message⟩] }

def ofScan (scan : Scan) (cacheFault : Option Fault) : Outcome :=
  { records := scan.records, failures := scan.failures, lines := scan.lines, headers := scan.headers, cacheFault }

def ofEntry (entry : Cache.Entry) : Outcome :=
  { records := entry.records.getD [], failures := entry.failures.getD [], cached := true,
    lines := entry.lines, headers := entry.headers }

end Outcome

namespace Run

open Disk (Host)

/-- The scan of a log's content under a profile. -/
def scanLog (profile : Profile) (job : Job) (content : Text) : Scan × Option Fault :=
  Scan.ofContent ⟨job.packageId, job.path, profile.kinds⟩ content

/-- The scan is clean: it has no failure and nothing stopped it. -/
def isClean (scan : Scan × Option Fault) : Bool := scan.2.isNone && scan.1.failures.isEmpty

def entryOf (scan : Scan) : Cache.Entry :=
  { records := some scan.records, lines := scan.lines, headers := scan.headers }

section Visits

variable {m : Type → Type} {Handle : Type} [Monad m] [Host m Handle] [Cache.Shared m]

/-- Scans a content through the cache with a directory. A cache that cannot be read is as good as none. -/
def visitCached (profile : Profile) (directory : Text) (job : Job) (content : Text) : m Outcome := do
  let key := Cache.key profile.name job.packageId job.path content
  let answer ← Cache.lookUp directory key
  match answer with
  | .ok (some entry) => return Outcome.ofEntry entry
  | .ok none | .error _ =>
    let fault := match answer with
      | .error f => some f
      | .ok _ => none
    let scan := scanLog profile job content
    -- the entry of a log that fails is not kept, so that the log is scanned again the next time
    if isClean scan then
      let stored ← Cache.store directory key (entryOf scan.1)
      -- of two faults the first is told
      let fault := match fault, stored with
        | none, .error f => some f
        | f, _ => f
      return Outcome.ofScan scan.1 fault
    else return Outcome.ofScan scan.1 fault

/-- Visits one log, through the cache with a directory if there is one. -/
def visit (profile : Profile) (directory : Option Text) (job : Job) : m Outcome := do
  match ← Host.readFile job.path with
  -- a log that does not exist is told apart from one that fails
  | .error e => return if e.isMissing then Outcome.absent else Outcome.unreadable job e
  | .ok content =>
    match directory with
    | none => return Outcome.ofScan (scanLog profile job content).1 none
    | some d => visitCached profile d job content

/-- Visits logs one after the other. -/
def visitAll (profile : Profile) (directory : Option Text) : List Job → m (List Outcome)
  | [] => return []
  | job :: jobs => do
    let outcome ← visit profile directory job
    let outcomes ← visitAll profile directory jobs
    return outcome :: outcomes

end Visits

end Run

/-- The merged result of a run. -/
structure RunResult where
  records : List Record := []
  failures : List Failure := []
  /-- The paths of logs that do not exist. -/
  missing : List Text := []
  /-- The number of logs that exist. -/
  scanned : Nat := 0
  /-- The number of logs answered from the cache. -/
  cached : Nat := 0
  lines : Int := 0
  headers : Int := 0
  packages : List Package := []
  /-- The number of logs for which the cache failed. -/
  cacheFaults : Nat := 0
deriving Repr, BEq, DecidableEq, Inhabited

namespace RunResult

/-- The outcomes of a listing's logs, in listing order, merged. -/
def ofOutcomes (listing : Listing) (outcomes : List Outcome) : RunResult :=
  let present := outcomes.filter fun o => !o.missing
  { records := present.flatMap Outcome.records
    failures := present.flatMap Outcome.failures
    missing := ((listing.jobs.zip outcomes).filter fun p => p.2.missing).map fun p => p.1.path
    scanned := present.length
    cached := (present.filter Outcome.cached).length
    lines := Text.sum64 (present.map Outcome.lines)
    headers := Text.sum64 (present.map Outcome.headers)
    packages := listing.packages
    cacheFaults := (present.filter fun o => o.cacheFault.isSome).length }

end RunResult

/-- The distinct log paths of some failures, in order of first failure. -/
def retryList (failures : List Failure) : List Text :=
  ((failures.map Failure.logPath).filter fun p => !p.isEmpty).eraseDups

/-! ## progress -/

/-- What a progress event tells of a log. -/
inductive ProgressStep where
  | scanned
  | cached
  | missing
  | failed
deriving Repr, BEq, DecidableEq, Inhabited

def ProgressStep.word : ProgressStep → Text
  | scanned => "scanned"
  | cached => "cached"
  | missing => "missing"
  | failed => "failed"

/-- The event of one finished log. -/
structure Progress where
  step : ProgressStep
  packageId : Text
  logPath : Text
  /-- The number of logs finished so far, this one included. -/
  done : Nat
  total : Nat
  message : Text
deriving Repr, BEq, DecidableEq, Inhabited

def Outcome.step (o : Outcome) : ProgressStep :=
  if o.missing then .missing
  else if !o.failures.isEmpty then .failed
  else if o.cached then .cached
  else .scanned

def Outcome.message (o : Outcome) : Text :=
  Text.ofNat o.records.length ++ " records, " ++ Text.ofNat o.failures.length ++ " failures" ++
    match o.cacheFault with
    | some f => "; cache: " ++ f.message
    | none => []

/-- The event of an outcome that is the `done`th of `total`. -/
def Outcome.event (o : Outcome) (job : Job) (done total : Nat) : Progress :=
  ⟨o.step, job.packageId, job.path, done, total, o.message⟩

/-- The events of logs finished in listing order. -/
def Run.progress (jobs : List Job) (outcomes : List Outcome) : List Progress :=
  ((jobs.zip outcomes).zipIdx 1).map fun p => p.1.2.event p.1.1 p.2 jobs.length

/-- Runs over a listing: the merged result, the progress and the cache after it. -/
def Run.perform {m : Type → Type} {Handle : Type} [Monad m] [Disk.Host m Handle] (profile : Profile)
    (cache : Option Cache) (listing : Listing) : m (RunResult × List Progress × Option Cache) := do
  let memory : Cache.Recent Cache.Entry := (cache.map Cache.recent).getD { capacity := 0 }
  let (outcomes, recent) ← StateT.run (Run.visitAll profile (cache.map Cache.directory) listing.jobs) memory
  return (RunResult.ofOutcomes listing outcomes, Run.progress listing.jobs outcomes,
    cache.map fun c => ⟨c.directory, recent⟩)

/-- Runs over a listing, unless the run was called off before it came to a log. -/
def Run.attempt {m : Type → Type} {Handle : Type} [Monad m] [Disk.Host m Handle] (cancelled : Bool)
    (profile : Profile) (cache : Option Cache) (listing : Listing) :
    m (Except Fault (RunResult × List Progress × Option Cache)) := do
  if cancelled && !listing.jobs.isEmpty then return .error .cancelled
  return .ok (← Run.perform profile cache listing)

/-- The order of progress events by package and log. -/
def Progress.before (a b : Progress) : Bool :=
  if a.packageId ≠ b.packageId then Text.before a.packageId b.packageId else Text.before a.logPath b.logPath

end CastAudit
