import CastAudit.Disk.Host
import CastAudit.Fault
import CastAudit.Listing

/-!
# Marker counts

The detector marks pointer casts and transmutes in its reports; here the lines that hold each mark are
counted, per package and in total. A line that holds both counts for both.
-/

namespace CastAudit

/-- The marked lines of a report. -/
structure MarkerCount where
  cast : Int := 0
  transmute : Int := 0
deriving Repr, BEq, DecidableEq, Inhabited

/-- The marked lines of a package. -/
structure PackageMarkers where
  packageId : Text := []
  cast : Int := 0
  transmute : Int := 0
deriving Repr, BEq, DecidableEq, Inhabited

/-- The marked lines of a corpus. -/
structure MarkerSummary where
  packages : List PackageMarkers := []
  castTotal : Int := 0
  transmuteTotal : Int := 0
  /-- The number of packages without any report. -/
  missing : Int := 0
deriving Repr, BEq, DecidableEq, Inhabited

namespace Markers

open Disk (Host)

abbrev castMark : Text := "cast::ptr-ptr"

abbrev transmuteMark : Text := "transmute::ptr-ptr"

def total (counts : List Int) : Int := counts.foldr (· + ·) 0

def linesWith (mark : Text) (lines : List Text) : Nat := lines.countP fun l => Text.holds l mark

/-- The marked lines of a report, up to a line of forbidden length. -/
def count (content : Text) : MarkerCount × Option Fault :=
  let input := Lines.read Lines.wide content
  (⟨linesWith castMark input.lines, linesWith transmuteMark input.lines⟩,
   if input.tooLong then some .longLine else none)

variable {m : Type → Type} {Handle : Type} [Monad m] [Host m Handle]

/-- The marked lines of the report at a path; a missing report has none to tell of. -/
def countFile (path : Text) : m (Except Fault (Option MarkerCount)) := do
  match ← Host.readFile path with
  | .error e =>
    if e.isMissing then return .ok none
    else if e.isOpening then return .error (.file e)
    else return .error (.table path .cannotReadReport (some (.file e)))
  | .ok content =>
    match count content with
    | (n, none) => return .ok (some n)
    | (_, some f) => return .error (.table path .cannotReadReport (some f))

/-- The marked lines of all reports that exist. -/
def countFiles : List Text → m (Except Fault (List MarkerCount))
  | [] => return .ok []
  | path :: paths => do
    match ← countFile path with
    | .error f => return .error f
    | .ok found =>
      match ← countFiles paths with
      | .error f => return .error f
      | .ok rest => return .ok (found.toList ++ rest)

/-- The marked lines of each package of a listing; `none` for a package without any report. -/
def countPackages : Listing → m (Except Fault (List (Option PackageMarkers)))
  | [] => return .ok []
  | entry :: rest => do
    match ← countFiles entry.logPaths with
    | .error f => return .error f
    | .ok counts =>
      match ← countPackages rest with
      | .error f => return .error f
      | .ok packages =>
        let here :=
          if counts.isEmpty then none
          else some ⟨entry.packageId, total (counts.map MarkerCount.cast), total (counts.map MarkerCount.transmute)⟩
        return .ok (here :: packages)

def summarize (packages : List (Option PackageMarkers)) : MarkerSummary :=
  let found := packages.filterMap id
  { packages := found
    castTotal := total (found.map PackageMarkers.cast)
    transmuteTotal := total (found.map PackageMarkers.transmute)
    missing := packages.countP Option.isNone }

/-- The marked lines of a corpus. -/
def countListing (listing : Listing) : m (Except Fault MarkerSummary) :=
  return (← countPackages listing).map summarize

def print (s : MarkerSummary) : Text :=
  Text.unlines (s.packages.map fun p =>
    p.packageId ++ "," ++ Text.ofInt p.cast ++ "," ++ Text.ofInt p.transmute) ++
  "cast sum: " ++ Text.ofInt s.castTotal ++ "\ntransmute sum: " ++ Text.ofInt s.transmuteTotal ++ "\n"

end Markers

end CastAudit
