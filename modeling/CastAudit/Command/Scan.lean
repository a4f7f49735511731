import CastAudit.Box
import CastAudit.Command.Output
import CastAudit.Database.Files
import CastAudit.Run
import CastAudit.Store.Failures

/-!
# Scanning and retrying

`scan` scans every log of a corpus, writes the records to the store and the logs with failures to the
failure list. `retry` scans the logs of a failure list again, without the cache: it appends what it finds
to the store and leaves the logs that still fail in the list.
-/

namespace CastAudit.Command

open Disk (Host)

/-- Where the logs of a scan come from. -/
inductive Corpus where
  /-- The directories below a root, with the name of the log in each. -/
  | root (path logName : Text)
  /-- A listing file. -/
  | listing (path : Text)
deriving Repr, BEq, DecidableEq, Inhabited

/-- Where a run leaves its results. -/
structure Results where
  /-- The record store. -/
  records : Text
  /-- The failure list. -/
  failures : Text
  /-- The address of a database; empty for none. -/
  database : Text := []
  /-- The settings that the environment makes for a database. -/
  connection : Database.Connection := []
  /-- The file of the JSON summary; empty for none. -/
  summary : Text := []
deriving Repr, BEq, DecidableEq, Inhabited

/-- A scan to be performed. -/
structure ScanPlan where
  profile : Profile
  corpus : Corpus
  results : Results
  /-- Old results are thrown away. -/
  fresh : Bool := false
  /-- The directory of the cache; empty for none. -/
  cacheDirectory : Text := []
  verbose : Bool := false
deriving Repr, BEq, DecidableEq, Inhabited

/-- A retry to be performed; its failure list is also where it reads from. -/
structure RetryPlan where
  profile : Profile
  results : Results
  verbose : Bool := false
deriving Repr, BEq, DecidableEq, Inhabited

variable {m : Type → Type} {Handle : Type} [Monad m] [Host m Handle]

def Corpus.load : Corpus → m (Except Fault Listing)
  | root path logName => Listing.discover path logName
  | listing path => Listing.load path

/-! ## results -/

/-- Writes records to the store at a path. -/
def writeRecords (path : Text) (fresh : Bool) (records : List Record) : m (Except Fault Unit) := do
  match ← Store.Writer.openAt path fresh with
  | .error f => return .error f
  | .ok writer => return (← writer.write records).1

/-- The totals of a run over `logs` logs. -/
def summaryOf (profile : Profile) (logs : Nat) (result : RunResult) : ScanSummary where
  profile := profile.name
  packages := result.packages.length
  logs := logs
  scanned := result.scanned
  cached := result.cached
  missing := result.missing.length
  records := result.records.length
  failures := result.failures.length
  failedLogs := (retryList result.failures).length
  lines := result.lines
  headers := result.headers

/-- Warns that a run is not kept in the database that was asked for. -/
def warnOfDatabase (results : Results) : m Unit := do
  if !results.database.isEmpty then
    let why ← Database.refusal results.connection results.database
    Host.complain ("Warning: failed to persist run to database: " ++ why.message ++ "\n")

/-- Leaves the results of a run: first the records, then the failing logs, then the summary. Each of the
two files is emptied before if it is to be fresh. -/
def finish (profile : Profile) (results : Results) (verbose freshRecords freshFailures : Bool) (logs : Nat)
    (result : RunResult) : ExceptT Fault m ScanSummary := do
  ExceptT.mk (writeRecords results.records freshRecords result.records)
  ExceptT.mk (Store.writeFailures results.failures (retryList result.failures) freshFailures)
  result.missing.forM fun path => ExceptT.lift (detail verbose ("missing log: " ++ path))
  let summary := summaryOf profile logs result
  ExceptT.lift (warnOfDatabase results)
  if !results.summary.isEmpty then ExceptT.mk (writeReport results.summary (.scan summary))
  ExceptT.lift (detailBox verbose (Box.scanSummary summary))
  ExceptT.lift (detailBox verbose (Box.failures result.failures))
  return summary

/-- Prints how far a run has come. -/
def detailProgress (verbose : Bool) (events : List Progress) : m Unit :=
  events.forM fun e =>
    detail verbose ("[" ++ Text.ofNat e.done ++ "/" ++ Text.ofNat e.total ++ "] " ++
      Text.padRight 8 e.step.word ++ " " ++ e.packageId ++ " (" ++ e.message ++ ")")

/-! ## scan -/

def openCache (directory : Text) : m (Except Fault (Option Cache)) := do
  if directory.isEmpty then return .ok none
  match ← Cache.openAt directory Cache.defaultCapacity with
  | .ok cache => return .ok (some cache)
  | .error f => return .error (.within "failed to open scan cache" f)

def warnOfCache (directory : Text) (faults : Nat) : m Unit :=
  if faults = 0 then pure ()
  else
    Host.complain ("Warning: scan cache at " ++ directory ++ " failed for " ++ Text.ofNat faults ++
      " logs; they were scanned uncached\n")

def quotedList (texts : List Text) : Text := "[" ++ Text.join " " (texts.map Text.quoted) ++ "]"

/-- The size of the corpus, told before a scan. -/
def corpusLine (listing : Listing) (profile : Profile) : Text :=
  Text.ofNat listing.length ++ " packages, " ++ Text.ofNat listing.logCount ++ " logs, profile " ++ profile.name

/-- The outcome of a scan, told after it. -/
def scanLine (summary : ScanSummary) (records : Text) : Text :=
  "Successfully scanned " ++ Text.ofInt summary.scanned ++ " logs: " ++ Text.ofInt summary.records ++
    " records to " ++ records ++ ", " ++ Text.ofInt summary.failures ++ " failures\n"

def scan (plan : ScanPlan) : ExceptT Fault m ScanSummary := do
  ExceptT.lift (Host.print "Step 1/3: Building corpus listing...\n")
  let listing ← ExceptT.mk plan.corpus.load
  ExceptT.lift (detail plan.verbose (corpusLine listing plan.profile))
  ExceptT.lift (detail plan.verbose ("header markers: " ++ quotedList plan.profile.markers))
  let cache ← ExceptT.mk (openCache plan.cacheDirectory)
  ExceptT.lift (Host.print ("Step 2/3: Scanning " ++ Text.ofNat listing.logCount ++ " logs...\n"))
  let (result, events, _) ← ExceptT.lift (Run.perform plan.profile cache listing)
  ExceptT.lift (detailProgress plan.verbose events)
  ExceptT.lift (warnOfCache plan.cacheDirectory result.cacheFaults)
  ExceptT.lift (Host.print "Step 3/3: Writing results...\n")
  let summary ← finish plan.profile plan.results plan.verbose plan.fresh plan.fresh listing.logCount result
  ExceptT.lift (Host.print (scanLine summary plan.results.records))
  return summary

/-! ## retry -/

/-- The outcome of a retry, told after it. -/
def retryLine (summary : ScanSummary) (records : Text) : Text :=
  "Retried " ++ Text.ofInt summary.scanned ++ " logs: " ++ Text.ofInt summary.records ++
    " records appended to " ++ records ++ ", " ++ Text.ofInt summary.failedLogs ++ " logs still failing\n"

/-- Performs a retry. An empty failure list leaves everything as it is. -/
def retry (plan : RetryPlan) : ExceptT Fault m ScanSummary := do
  let failed ← ExceptT.mk (Store.readFailures plan.results.failures)
  if failed.isEmpty then
    ExceptT.lift (Host.print ("No failed logs in " ++ plan.results.failures ++ "\n"))
    return { profile := plan.profile.name }
  ExceptT.lift (Host.print ("Retrying " ++ Text.ofNat failed.length ++ " failed logs...\n"))
  let (result, events, _) ← ExceptT.lift (Run.perform plan.profile none (Listing.ofFailures failed))
  ExceptT.lift (detailProgress plan.verbose events)
  let summary ← finish plan.profile plan.results plan.verbose false true failed.length result
  ExceptT.lift (Host.print (retryLine summary plan.results.records))
  return summary

end CastAudit.Command
