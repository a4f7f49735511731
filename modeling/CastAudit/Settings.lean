import CastAudit.Disk.Host
import CastAudit.Fault
import CastAudit.Json.Binding
import CastAudit.Json.Reader
import CastAudit.Toml.Reader
import CastAudit.Url

/-!
# Settings

What a settings file can say, in JSON or TOML. All fields are optional; command-line options win over
them, and what neither sets has a default.
-/

namespace CastAudit

/-- The settings of a command. -/
structure Settings where
  /-- The corpus root, one directory per package. -/
  root : Text := []
  /-- The listing file. -/
  listing : Text := []
  /-- The name of the log in each package directory. -/
  logName : Text := []
  profile : Text := []
  /-- The number of logs scanned at a time. -/
  jobs : Int := 0
  /-- The record store. -/
  records : Text := []
  /-- The failure list. -/
  failures : Text := []
  cacheDirectory : Text := []
  /-- The star table. -/
  stars : Text := []
  /-- The package metadata. -/
  metadata : Text := []
  verbose : Bool := false
  databaseUrl : Text := []
deriving Repr, BEq, DecidableEq, Inhabited

namespace Settings

open Disk (Host)

/-! ## reading -/

/-- The text fields by their names. -/
def textFields : List (String × (Settings → Text → Settings)) :=
  [("root", fun s t => { s with root := t }), ("listing", fun s t => { s with listing := t }),
   ("log_name", fun s t => { s with logName := t }), ("profile", fun s t => { s with profile := t }),
   ("records", fun s t => { s with records := t }), ("failures", fun s t => { s with failures := t }),
   ("cache_dir", fun s t => { s with cacheDirectory := t }), ("stars", fun s t => { s with stars := t }),
   ("metadata", fun s t => { s with metadata := t }), ("database_url", fun s t => { s with databaseUrl := t })]

def binders : List (Json.Binder Unit Settings) :=
  textFields.map (fun f => Json.textBinder f.1 f.2) ++
  [Json.intBinder "jobs" fun s n => { s with jobs := n }, Json.boolBinder "verbose" fun s b => { s with verbose := b }]

def ofJson? (text : Text) : Option Settings :=
  (Json.parse? text).bind fun value => (Json.bind binders () {} value).toOption

/-- The settings with one name of a TOML document. Names match without regard to case, unknown names are
passed over. -/
def bindToml? (s : Settings) (entry : Text × Toml.Node) : Option Settings :=
  let isNamed (name : String) : Bool := Json.foldName entry.1 == Json.foldName name
  match textFields.find? fun f => isNamed f.1 with
  | some f =>
    match entry.2 with
    | .leaf (.text t) => some (f.2 s t)
    | _ => none
  | none =>
    if isNamed "jobs" then
      match entry.2 with
      | .leaf (.integer n) => some { s with jobs := n }
      | _ => none
    else if isNamed "verbose" then
      match entry.2 with
      | .leaf (.boolean b) => some { s with verbose := b }
      | _ => none
    else some s

def ofToml? (text : Text) : Option Settings :=
  (Toml.parse? text).bind fun entries => entries.foldlM bindToml? {}

/-- The path names a TOML file. -/
def isToml (path : Text) : Bool := Text.lower (Path.extension path) == Text.ofString ".toml"

/-- The settings of a file's content. -/
def ofContent (path content : Text) : Except Fault Settings :=
  if isToml path then
    match ofToml? content with
    | some s => .ok s
    | none => .error (.plain "failed to parse config TOML")
  else
    match ofJson? content with
    | some s => .ok s
    | none => .error (.plain "failed to parse config JSON")

variable {m : Type → Type} {Handle : Type} [Monad m] [Host m Handle]

def loadAbsolute (path : Text) : m (Except Fault Settings) := do
  match ← Host.readFile path with
  | .error e => return .error (.within ("failed to read config file " ++ path) (.file e))
  | .ok content => return ofContent path content

def load (path : Text) : m (Except Fault Settings) := do
  if path.isEmpty then return .error (.plain "config path is empty")
  if Path.isAbsolute path then loadAbsolute path
  else
    match ← Host.workingDirectory with
    | .error e => return .error (.within "failed to get current directory" (.file e))
    | .ok here => loadAbsolute (Path.join [here, path])

/-! ## rules -/

def brokenRules (s : Settings) : List BrokenRule :=
  firstBroken "Config" "Profile"
    [(.oneOf, s.profile.isEmpty || (["cast", "transmute", "lint", "bugs"].map Text.ofString).contains s.profile)] ++
  firstBroken "Config" "Jobs" [(.min, 0 ≤ s.jobs), (.max, s.jobs ≤ 1024)] ++
  firstBroken "Config" "DatabaseURL" [(.url, s.databaseUrl.isEmpty || Url.isLink s.databaseUrl)]

/-- What is wrong with the corpus root, if anything. -/
def rootProblem (s : Settings) : m (Option Fault) := do
  if s.root.isEmpty then return none
  match ← Host.inspect s.root with
  | .ok .directory => return none
  | .ok .other => return some (.plain ("config error: corpus root is not a directory: " ++ s.root))
  | .error e =>
    if e.isMissing then return some (.plain ("config error: corpus root not found: " ++ s.root)) else return none

/-- What is wrong with the listing file, if anything. -/
def listingProblem (s : Settings) : m (Option Fault) := do
  if s.listing.isEmpty then return none
  match ← Host.inspect s.listing with
  | .ok _ => return none
  | .error e =>
    if e.isMissing then return some (.plain ("config error: listing file not found: " ++ s.listing)) else return none

def validate (s : Settings) : m (Except Fault Unit) := do
  if !s.root.isEmpty && !s.listing.isEmpty then
    return .error (.plain "config error: 'root' and 'listing' are mutually exclusive")
  match s.brokenRules with
  | [] =>
    match ← s.rootProblem with
    | some f => return .error f
    | none =>
      match ← s.listingProblem with
      | some f => return .error f
      | none => return .ok ()
  | broken => return .error (.within "config error" (.rules broken))

/-! ## defaults -/

def orElse (a b : Text) : Text := if a.isEmpty then b else a

/-- Settings filled up from others; the two output files have names even if nobody gives them. -/
def mergeWith (s d : Settings) : Settings where
  root := orElse s.root d.root
  listing := orElse s.listing d.listing
  logName := orElse s.logName d.logName
  profile := orElse s.profile d.profile
  jobs := if s.jobs = 0 then d.jobs else s.jobs
  records := orElse s.records (orElse d.records "records.csv")
  failures := orElse s.failures (orElse d.failures "fail.log")
  cacheDirectory := orElse s.cacheDirectory d.cacheDirectory
  stars := orElse s.stars d.stars
  metadata := orElse s.metadata d.metadata
  -- a switch that is off cannot be told from one that was not given
  verbose := s.verbose
  databaseUrl := orElse s.databaseUrl d.databaseUrl

end Settings

end CastAudit
