import CastAudit.Csv.Reader
import CastAudit.Disk.Host
import CastAudit.Fault
import CastAudit.Text.Blank

/-!
# Popularity tables

Two tables give packages their popularity: one counts the stars of repositories, the other tells the
repository of each version of a package. Both are read leniently, row by row; `repositoryKey` brings
the spellings of a repository to one key, by which the tables are joined.
-/

namespace CastAudit.Ranking

open Disk (Host)

/-- The key of a repository. A name with a scheme or with more than one slash is cut to its last two
parts. -/
def repositoryKey (name : Text) : Text :=
  let name := Text.chopSuffix (Text.chopSuffix (Text.trim name) "/") ".git"
  if !Text.holds name "://" && Text.countByte name Text.slash ≤ 1 then name
  else match (Text.splitOn name "/").reverse with
    | repository :: owner :: _ => owner ++ "/" ++ repository
    | _ => name

/-! ## stars -/

/-- Star counts by repository, each repository once. -/
abbrev StarTable := List (Text × Int)

/-- The table with a count for a key; an earlier count is replaced. -/
def StarTable.insert (t : StarTable) (key : Text) (stars : Int) : StarTable :=
  (key, stars) :: t.filter fun e => e.1 != key

/-- The key and count of a row, if it has them. -/
def starRow? (row : List Text) : Option (Text × Int) :=
  match row with
  | name :: stars :: _ =>
    match Text.readStoredInt (Text.trim stars) with
    | .ok n => if n < 0 || (repositoryKey name).isEmpty then none else some (repositoryKey name, n)
    | .error _ => none
  | _ => none

/-- The star table of some rows. A repeated repository keeps the last count. -/
def starTable (rows : List (List Text)) : StarTable :=
  (rows.filterMap starRow?).foldl (fun t e => StarTable.insert t e.1 e.2) []

/-! ## metadata -/

/-- A version of a package with its repository. -/
structure Metadata where
  canonicalId : Text := []
  version : Text := []
  /-- The key into the star table. -/
  packageName : Text := []
deriving Repr, BEq, DecidableEq, Inhabited

/-- The metadata of a row. Rows without a package or a repository have none. -/
def metadataRow? (row : List Text) : Option Metadata :=
  match row with
  | id :: version :: name :: _ =>
    let key := repositoryKey name
    if key.isEmpty || key == Text.ofString "none" || (Text.trim id).isEmpty then none
    else some ⟨Text.trim id, Text.trim version, key⟩
  | _ => none

def metadataTable (rows : List (List Text)) : List Metadata := rows.filterMap metadataRow?

/-! ## reading -/

/-- How tables are read: any number of fields, misplaced quotes kept, `#` starts a comment. -/
def dialect : Csv.Dialect := { trimStart := true, lenient := true, comment := some 0x23 }

/-- The rows of a table's content. -/
def rowsOf (content : Text) : List (List Text) :=
  (Csv.read dialect content).rows.map fun row => row.map Csv.Field.text

def readRows {m : Type → Type} {Handle : Type} [Monad m] [Host m Handle] (path : Text) :
    m (Except Fault (List (List Text))) := do
  match ← Host.readFile path with
  | .error e =>
    let problem : TableProblem := if e.isOpening then .cannotOpen else .cannotRead
    return .error (.table path problem (some (.file e)))
  | .ok content => return .ok (rowsOf content)

def loadStars {m : Type → Type} {Handle : Type} [Monad m] [Host m Handle] (path : Text) :
    m (Except Fault StarTable) := return (← readRows path).map starTable

def loadMetadata {m : Type → Type} {Handle : Type} [Monad m] [Host m Handle] (path : Text) :
    m (Except Fault (List Metadata)) := return (← readRows path).map metadataTable

end CastAudit.Ranking
