import CastAudit.Json.Printer
import CastAudit.Markers
import CastAudit.Pattern
import CastAudit.Ranking

/-!
# JSON reports

The four reports that commands write as JSON. A list that was never made is written as `null`.
-/

namespace CastAudit

/-- The totals of a scan or retry. -/
structure ScanSummary where
  profile : Text := []
  /-- The run in the database, if it was kept there. -/
  runId : Text := []
  packages : Int := 0
  logs : Int := 0
  scanned : Int := 0
  cached : Int := 0
  missing : Int := 0
  records : Int := 0
  failures : Int := 0
  /-- The number of logs in the failure list. -/
  failedLogs : Int := 0
  lines : Int := 0
  headers : Int := 0
deriving Repr, BEq, DecidableEq, Inhabited

/-- A document that a command writes. -/
inductive Report where
  | scan (summary : ScanSummary)
  | patterns (total : Int) (patterns : Option (List PatternCount))
  | ranking (ranked : Option (List RankedPackage)) (packages : List Package)
  | markers (packages : Option (List PackageMarkers)) (castTotal transmuteTotal missing : Int)
deriving Repr, BEq, Inhabited

namespace Report

/-- A list of values, or `null`. -/
def list {α : Type} (f : α → Json) : Option (List α) → Json
  | none => .null
  | some xs => .array (xs.map f)

def ofSummary (s : ScanSummary) : Json :=
  .object ([Json.textField "profile" s.profile] ++ Json.filledText "run_id" s.runId ++
    [Json.intField "packages" s.packages, Json.intField "logs" s.logs, Json.intField "scanned" s.scanned,
     Json.intField "cached" s.cached, Json.intField "missing" s.missing, Json.intField "records" s.records,
     Json.intField "failures" s.failures] ++ Json.filledInt "failed_logs" s.failedLogs ++
    [Json.intField "lines" s.lines, Json.intField "headers" s.headers])

def ofPatternCount (c : PatternCount) : Json :=
  let key : Json := .object ([Json.textField "kind" c.pattern.kind.tag] ++
    Json.filledText "from_type" c.pattern.fromType ++ Json.filledText "to_type" c.pattern.toType)
  .object [("key", key), Json.intField "count" c.count]

def ofRanked (p : RankedPackage) : Json :=
  .object ([Json.intField "rank" p.rank, Json.textField "canonical_id" p.canonicalId,
    Json.textField "version" p.version, Json.intField "stars" p.stars] ++ Json.filledInt "findings" p.findings)

def ofPackage (p : Package) : Json :=
  .object ([Json.textField "name" p.name] ++ Json.filledText "version" p.version ++
    (p.popularity.map (Json.intField "popularity")).toList)

/-- The marked lines of a package. -/
def ofPackageMarkers (p : PackageMarkers) : Json :=
  .object [Json.textField "package_id" p.packageId, Json.intField "cast" p.cast,
    Json.intField "transmute" p.transmute]

def toJson : Report → Json
  | scan s => ofSummary s
  | patterns total ps => .object [Json.intField "total" total, ("patterns", list ofPatternCount ps)]
  | ranking ranked packages =>
    .object (("ranked", list ofRanked ranked) ::
      if packages.isEmpty then [] else [("packages", .array (packages.map ofPackage))])
  | markers packages castTotal transmuteTotal missing =>
    .object [("packages", list ofPackageMarkers packages), Json.intField "cast_total" castTotal,
      Json.intField "transmute_total" transmuteTotal, Json.intField "missing" missing]

def print (r : Report) : Text := Json.indented 0 r.toJson

end Report

end CastAudit
