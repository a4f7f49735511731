import CastAudit.Box
import CastAudit.Command.Output
import CastAudit.LineStats
import CastAudit.Store.Records

/-!
# Reports

The commands that only read: the frequency of patterns in a record store, the ranking of packages by
popularity, the marked lines of a corpus, and the statistics of a file of numbers.
-/

namespace CastAudit.Command

open Disk (Host)

/-- How and where a report is written. -/
structure Destination where
  path : Text := []
  format : Text := "text"
  verbose : Bool := false
deriving Repr, BEq, DecidableEq, Inhabited

variable {m : Type → Type} {Handle : Type} [Monad m] [Host m Handle]

/-- Writes a report in one of its forms. -/
def Destination.write (dest : Destination) (format : Format) (text : Text) (report : Report) :
    m (Except Fault Unit) :=
  match format with
  | .text => writeOutput dest.path text
  | .json => writeReport dest.path report

def reportPatterns (records : Text) (top : Int) (dest : Destination) : ExceptT Fault m Unit := do
  let format ← Format.find dest.format
  if top < 0 then throw (.plain "--top must be non-negative")
  let records ← ExceptT.mk (Store.readRecords records)
  let report := PatternReport.ofCounts (Pattern.frequency records) top
  ExceptT.lift (detailBox dest.verbose (Box.patterns report.patterns))
  ExceptT.mk (dest.write format (PatternCount.print report.patterns) (.patterns report.total (some report.patterns)))

/-- The tables of a ranking. -/
structure RankInput where
  stars : Text
  metadata : Text
  /-- The record store; empty for none. -/
  records : Text := []
  /-- Only packages with bug reports are ranked. -/
  buggyOnly : Bool := false
deriving Repr, BEq, DecidableEq, Inhabited

/-- The records of an optional store. -/
def recordsIfAny (path : Text) : m (Except Fault (Option (List Record))) := do
  if path.isEmpty then return .ok none
  return (← Store.readRecords path).map some

def tablesLine (stars : Ranking.StarTable) (rows : List Ranking.Metadata) : Text :=
  "loaded " ++ Text.ofNat stars.length ++ " star entries and " ++ Text.ofNat rows.length ++ " metadata rows"

/-- Reports the packages by popularity. -/
def reportRanking (input : RankInput) (dest : Destination) : ExceptT Fault m Unit := do
  let format ← Format.find dest.format
  if input.buggyOnly && input.records.isEmpty then throw (.plain "--buggy-only requires --records")
  let stars ← ExceptT.mk (Ranking.loadStars input.stars)
  let rows ← ExceptT.mk (Ranking.loadMetadata input.metadata)
  ExceptT.lift (detail dest.verbose (tablesLine stars rows))
  let records ← ExceptT.mk (recordsIfAny input.records)
  let all := Ranking.rank (records.map Ranking.findingCounts) stars rows
  let ranked := if input.buggyOnly then Ranking.buggy all (records.getD []) else all
  ExceptT.lift (detailBox dest.verbose (Box.ranked ranked))
  match format with
  | .text => ExceptT.mk (writeOutput dest.path (Ranking.print ranked))
  | .json =>
    let packages ← Ranking.popularityEntries ranked
    ExceptT.mk (writeReport dest.path (.ranking (some ranked) packages))

/-- Reports the marked lines of the reports below a root. -/
def reportMarkers (root reportName : Text) (dest : Destination) : ExceptT Fault m Unit := do
  let format ← Format.find dest.format
  let listing ← ExceptT.mk (Listing.discover root reportName)
  let summary ← ExceptT.mk (Markers.countListing listing)
  ExceptT.lift (detailBox dest.verbose (Box.markers summary))
  ExceptT.mk (dest.write format (Markers.print summary)
    (.markers (some summary.packages) summary.castTotal summary.transmuteTotal summary.missing))

/-- Reports the statistics of a file of numbers. -/
def reportLineStats (path : Text) : ExceptT Fault m Unit := do
  match ← ExceptT.lift (Host.readFile path) with
  | .error e => throw (.within ((if e.isOpening then "failed to open " else "failed to read ") ++ path) (.file e))
  | .ok content =>
    match LineStats.ofContent content with
    | (stats, none) => ExceptT.lift (Host.print stats.print)
    | (_, some f) => throw (.within ("failed to read " ++ path) f)

end CastAudit.Command
