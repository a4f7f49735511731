import CastAudit.Command.Line
import CastAudit.Command.Reports
import CastAudit.Command.Scan
import CastAudit.EnvFile
import CastAudit.Settings

/-!
# Commands

`execute` runs the program on its arguments: it finds the command, merges its flags with the settings
file and performs it. A fault is told twice, by the reader of the command line and by the program, and
makes the exit code one.
-/

namespace CastAudit.Command

open Disk (Host)

variable {m : Type → Type} {Handle : Type} [Monad m] [Host m Handle]

/-! ## environment -/

/-- The variables of the environment file in the working directory. A file that cannot be read or has an
error counts as empty. -/
def loadEnvFile : m EnvFile.Variables := do
  match ← Host.readFile ".env" with
  | .ok content => return (EnvFile.parse? content).getD []
  | .error _ => return []

/-- The value of a variable: the environment's own, else that of the environment file, unless it holds a
byte that no variable can. -/
def lookUp (file : EnvFile.Variables) (name : Text) : m (Option Text) := do
  match ← Host.lookUp name with
  | some value => return some value
  | none => return (file.lookup name).filter fun value => !value.contains 0

/-- The settings that the environment makes for a database. -/
def connectionOf (file : EnvFile.Variables) : m Database.Connection := do
  let values ← Database.variableNames.mapM fun v => return (v.2, (← lookUp file v.1).getD [])
  return values.filter fun v => !v.2.isEmpty

/-! ## settings -/

/-- The settings of a command, and whether it is to print details. -/
structure Loaded where
  settings : Settings := {}
  verbose : Bool := false
deriving Repr, BEq, DecidableEq, Inhabited

/-- The settings of the file that the flags name. A flag that asks for details wins over the file. -/
def loadSettings (given : Given) : ExceptT Fault m Loaded := do
  let path := given.text "config" []
  if path.isEmpty then return { verbose := given.isOn "verbose" }
  let settings ← ExceptT.mk (return (← Settings.load path).mapError (.within "failed to load config"))
  ExceptT.mk settings.validate
  let verbose := (given.switch? "verbose").getD settings.verbose
  ExceptT.lift (detail verbose ("Loaded config from: " ++ path))
  return { settings, verbose }

/-- The settings with the flags that stand above them, and the defaults below. -/
def overridden (given : Given) (s : Settings) : Settings :=
  { s with
    root := given.text "root" s.root
    listing := given.text "listing" s.listing
    profile := given.text "profile" (Settings.orElse s.profile Profile.defaultName)
    logName := given.text "log-name" s.logName
    jobs := (given.number? "jobs").getD s.jobs
    records := given.text "out" s.records
    failures := given.text "failures" s.failures
    cacheDirectory := given.text "cache-dir" s.cacheDirectory
    databaseUrl := given.text "database-url" s.databaseUrl }.mergeWith {}

/-- The name of the log in each package directory. -/
def logNameOf (s : Settings) (profile : Profile) : Text := Settings.orElse s.logName profile.logName

/-- Where a run leaves its results. Without an address in the settings the environment may give one. -/
def resultsOf (given : Given) (s : Settings) : m Results := do
  let file ← loadEnvFile
  let database ←
    if s.databaseUrl.isEmpty then pure ((← lookUp file "DATABASE_URL").getD []) else pure s.databaseUrl
  return { records := s.records, failures := s.failures, database, connection := ← connectionOf file,
           summary := given.text "summary" [] }

/-- The corpus of a scan: a root or a listing, and not both. -/
def corpusOf (s : Settings) (profile : Profile) : Corpus :=
  if s.listing.isEmpty then .root s.root (logNameOf s profile) else .listing s.listing

/-- The scan that the flags and settings ask for. -/
def scanPlan (given : Given) : ExceptT Fault m ScanPlan := do
  let loaded ← loadSettings given
  let s := overridden given loaded.settings
  if s.root.isEmpty && s.listing.isEmpty then
    throw (.plain "either --root or --listing must be provided (via flag or config)")
  if !s.root.isEmpty && !s.listing.isEmpty then
    throw (.plain "--root and --listing are mutually exclusive; provide only one")
  let profile ← Profile.find s.profile
  let results ← ExceptT.lift (resultsOf given s)
  return { profile, corpus := corpusOf s profile, results, fresh := given.isOn "fresh",
           cacheDirectory := s.cacheDirectory, verbose := loaded.verbose }

/-- The retry that the flags and settings ask for. -/
def retryPlan (given : Given) : ExceptT Fault m RetryPlan := do
  let loaded ← loadSettings given
  let s := overridden given { loaded.settings with failures := [] }
  let profile ← Profile.find s.profile
  let results ← ExceptT.lift (resultsOf given s)
  return { profile, results, verbose := loaded.verbose }

/-! ## performing -/

/-- The destination that the flags name. -/
def destinationOf (given : Given) (verbose : Bool) : Destination :=
  { path := given.text "out" [], format := given.text "format" "text", verbose }

/-- The ranking that the flags and settings ask for. -/
def performRank (given : Given) : ExceptT Fault m Unit := do
  let loaded ← loadSettings given
  let stars := given.text "stars" loaded.settings.stars
  let metadata := given.text "metadata" loaded.settings.metadata
  if stars.isEmpty || metadata.isEmpty then
    throw (.plain "--stars and --metadata must be provided (via flag or config)")
  let input := { stars, metadata, records := given.text "records" [], buggyOnly := given.isOn "buggy-only" }
  reportRanking input (destinationOf given loaded.verbose)

/-- Performs an action with the flags given to it. -/
def perform (action : Action) (given : Given) : ExceptT Fault m Unit :=
  let dest := destinationOf given (given.isOn "verbose")
  match action with
  | .scan => do discard (scan (← scanPlan given))
  | .retry => do discard (retry (← retryPlan given))
  | .rank => performRank given
  | .patterns => reportPatterns (given.text "records" []) ((given.number? "top").getD 0) dest
  | .count => reportMarkers (given.text "root" []) (given.text "report-name" "report.txt") dest
  | .linestats => reportLineStats (given.text "input" [])

/-- What the program says of itself. -/
def help : Text :=
  "convscan scans the diagnostic logs a static analyzer writes for every package of a corpus,\n" ++
  "extracts pointer cast, transmute and memory-safety bug findings into a record store, and\n" ++
  "reports pattern frequencies and popularity rankings over the result.\n\nCommands:\n" ++
  Text.unlines (Action.all.map fun a => "  " ++ a.name)

/-- The line that tells a fault. -/
def errorLine (message : Text) : Text := "Error: " ++ message ++ "\n"

/-- What is said between the two tellings of an error: after an unknown command, where help is. -/
def UsageError.hint : UsageError → Text
  | .unknownCommand _ program _ => "Run '" ++ program ++ " --help' for usage.\n"
  | _ => []

/-- Runs the program; the result is its exit code. -/
def execute (arguments : List Text) : m Nat := do
  match request arguments with
  | .error e =>
    Host.complain (errorLine e.message ++ e.hint ++ errorLine e.message)
    return 1
  | .ok .help =>
    Host.print help
    return 0
  | .ok (.perform action given) =>
    match ← (perform action given : ExceptT Fault m Unit).run with
    | .ok () => return 0
    | .error f =>
      Host.complain (errorLine f.message ++ errorLine f.message)
      return 1

end CastAudit.Command
