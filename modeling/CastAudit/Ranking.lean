import CastAudit.Package
import CastAudit.Ranking.Tables
import CastAudit.Record

/-!
# Rankings

Packages joined with their star counts, most starred first. With findings given, only packages that
have some are ranked; a finding belongs to a package by its plain or by its versioned id.
-/

namespace CastAudit

/-- A package in a ranking. -/
structure RankedPackage where
  rank : Int := 0
  canonicalId : Text := []
  version : Text := []
  stars : Int := 0
  /-- The number of findings, zero when none were asked for. -/
  findings : Int := 0
deriving Repr, BEq, DecidableEq, Inhabited

namespace RankedPackage

def id (p : RankedPackage) : Text := versioned p.canonicalId p.version

def package (p : RankedPackage) : Package := ⟨p.canonicalId, p.version, some p.stars⟩

end RankedPackage

namespace Ranking

/-- Numbers of findings by package id. -/
abbrev Findings := List (Text × Int)

/-- The number of records of each package. -/
def findingCounts (records : List Record) : Findings :=
  let ids := records.map Record.packageId
  ids.eraseDups.map fun id => (id, (ids.count id : Int))

def Findings.at (f : Findings) (id : Text) : Int := (f.lookup id).getD 0

/-- The findings of a package, under its versioned id and, if that is another, under its plain one. -/
def findingsOf (f : Findings) (canonicalId version : Text) : Int :=
  if version.isEmpty then Findings.at f canonicalId
  else Text.wrap64 (Findings.at f (versioned canonicalId version) + Findings.at f canonicalId)

/-- The ranked package of a metadata row, still without a rank; `none` if it is not to be ranked. -/
def join? (findings : Option Findings) (stars : StarTable) (row : Metadata) : Option RankedPackage := do
  let count ← stars.lookup row.packageName
  match findings with
  | none => some { canonicalId := row.canonicalId, version := row.version, stars := count }
  | some f =>
    let n := findingsOf f row.canonicalId row.version
    if n = 0 then none
    else some { canonicalId := row.canonicalId, version := row.version, stars := count, findings := n }

def firstById (packages : List RankedPackage) : List RankedPackage :=
  packages.eraseDupsBy fun a b => a.id == b.id

/-- The order of a ranking: more stars first, equal stars by id. -/
def before (a b : RankedPackage) : Bool :=
  if a.stars ≠ b.stars then b.stars < a.stars else Text.before a.id b.id

def numbered (packages : List RankedPackage) : List RankedPackage :=
  (packages.zipIdx 1).map fun p => { p.1 with rank := (p.2 : Int) }

def rank (findings : Option Findings) (stars : StarTable) (rows : List Metadata) : List RankedPackage :=
  numbered ((firstById (rows.filterMap (join? findings stars))).mergeSort fun a b => !before b a)

/-- The packages of a ranking that have bug reports, numbered anew, with those as their findings. -/
def buggy (ranked : List RankedPackage) (records : List Record) : List RankedPackage :=
  let bugs := findingCounts (records.filter fun r => r.kind.isBug)
  numbered ((ranked.map fun p => { p with findings := findingsOf bugs p.canonicalId p.version }).filter
    fun p => p.findings ≠ 0)

/-- The packages of a ranking with their popularity; the first that breaks a rule is the fault. -/
def popularityEntries (ranked : List RankedPackage) : Except Fault (List Package) :=
  ranked.mapM fun p =>
    match p.package.brokenRules with
    | [] => .ok p.package
    | broken => .error (.within ("ranked package " ++ p.id) (.rules broken))

/-- The printed ranking: one id per line. -/
def print (ranked : List RankedPackage) : Text := Text.unlines (ranked.map RankedPackage.id)

end Ranking

end CastAudit
