import CastAudit.Report
import CastAudit.Text.Cell

/-!
# Boxes

Verbose output shows summaries in boxes of fixed width: a title, a rule and lines cut or padded to the
width. Long lists show their first few items and count the rest.
-/

namespace CastAudit.Box

abbrev width : Nat := 60

/-- The number of items shown of a list. -/
abbrev shown : Nat := 5

/-- The horizontal edge of a box between two corners. -/
def edge (left right : String) : Text := left ++ Text.repeated "─" (width - 2) ++ right ++ "\n"

/-- A line between the sides of a box. -/
def side (line : Text) : Text := "│ " ++ Text.fit (width - 4) line ++ " │\n"

/-- The lines of a box with a title and a content. -/
def draw (title content : Text) : List Text :=
  [edge "┌" "┐", side title, edge "├" "┤"] ++ (Text.splitOn content [Text.lf]).map side ++ [edge "└" "┘"]

/-- The content of a list: what is counted, the first items, and the number of the others. -/
def listing (heading : Text) (items : List Text) (plural : String) : Text :=
  let more : Text :=
    if items.length > shown then "\n... and " ++ Text.ofNat (items.length - shown) ++ " more " ++ plural else []
  Text.chopSuffix (heading ++ "\n\n" ++ (items.take shown).flatten ++ more) "\n"

def scanSummary (s : ScanSummary) : List Text :=
  let n (i : Int) : Text := Text.ofInt i
  draw "SCAN SUMMARY"
    ("Profile:   " ++ s.profile ++ "\n" ++
     (if s.runId.isEmpty then [] else ("Run:       " ++ s.runId ++ "\n" : Text)) ++
     "Packages:  " ++ n s.packages ++ "\n" ++
     "Logs:      " ++ n s.logs ++ " (" ++ n s.scanned ++ " scanned, " ++ n s.cached ++ " cached, " ++
       n s.missing ++ " missing)\n" ++
     "Lines:     " ++ n s.lines ++ " (" ++ n s.headers ++ " headers)\n" ++
     "Records:   " ++ n s.records ++ "\n" ++
     "Failures:  " ++ n s.failures ++
     (if 0 < s.failedLogs then (" in " ++ n s.failedLogs ++ " logs" : Text) else []))

/-- The first failures of a run. -/
def failures (fs : List Failure) : List Text :=
  if fs.isEmpty then draw "SCAN FAILURES" "none"
  else
    draw "SCAN FAILURES" (listing ("Found " ++ Text.ofNat fs.length ++ " failures:")
      (fs.map fun f => "⚠ " ++ f.packageId ++ ":" ++ Text.ofInt f.line ++ "\n  " ++ f.reason ++ "\n") "failures")

/-- The most frequent patterns. -/
def patterns (counts : List PatternCount) : List Text :=
  if counts.isEmpty then []
  else
    let total := Text.sum64 (counts.map PatternCount.count)
    draw "TOP PATTERNS" (listing
      ("Total records: " ++ Text.ofInt total ++ ", distinct patterns: " ++ Text.ofNat counts.length)
      (counts.map fun c => Text.padLeft 5 (Text.ofInt c.count) ++ "  " ++ c.pattern.label ++ "\n") "patterns")

/-- The most popular packages. -/
def ranked (ps : List RankedPackage) : List Text :=
  if ps.isEmpty then []
  else
    draw "TOP RANKED PACKAGES" (listing ("Total packages ranked: " ++ Text.ofNat ps.length)
      (ps.map fun p =>
        "#" ++ Text.ofInt p.rank ++ "  " ++ p.id ++ "\n    Stars: " ++ Text.ofInt p.stars ++
          (if 0 < p.findings then ("  Findings: " ++ Text.ofInt p.findings : Text) else []) ++ "\n") "packages")

/-- The marked lines of a corpus. -/
def markers (s : MarkerSummary) : List Text :=
  draw "MARKER COUNTS"
    ("Packages:  " ++ Text.ofNat s.packages.length ++ " (" ++ Text.ofInt s.missing ++ " missing reports)\n" ++
     "Cast:      " ++ Text.ofInt s.castTotal ++ "\n" ++
     "Transmute: " ++ Text.ofInt s.transmuteTotal)

end CastAudit.Box
