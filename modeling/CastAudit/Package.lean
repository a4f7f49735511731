import CastAudit.Text.Blank
import CastAudit.Rule

/-!
# Packages

A package has a name, perhaps a version, and after ranking a popularity. Its id joins name and version
with a hyphen; `ofId` splits an id again. Names and versions hold neither commas nor path separators,
since both stand in comma-separated rows and ids serve as directory names.
-/

namespace CastAudit

/-- A package registered for scanning. -/
structure Package where
  name : Text := []
  version : Text := []
  /-- Filled in by ranking. -/
  popularity : Option Int := none
deriving Repr, BEq, DecidableEq, Inhabited

/-- A name with a version behind a hyphen; without a version the name alone. -/
def versioned (name version : Text) : Text :=
  if version.isEmpty then name else name ++ Text.dash :: version

namespace Package

def id (p : Package) : Text := versioned p.name p.version

/-- Looks from the end of a reversed id for a hyphen with a digit behind it and a byte before it. -/
def cutVersion (after : Text) : Text → Option (Text × Text)
  | d :: b :: r =>
    if b = Text.dash && Text.isDigit d && !r.isEmpty then some (r.reverse, d :: after)
    else cutVersion (d :: after) (b :: r)
  | _ => none

/-- The package with an id. The version starts after the last hyphen that a digit follows; an id
without one has no version. -/
def ofId (id : Text) : Package :=
  let id := Text.trim id
  match cutVersion [] id.reverse with
  | some (name, version) => { name, version }
  | none => { name := id }

/-- A comma or a path separator. -/
def isForbidden (b : UInt8) : Bool := b = Text.comma || b = Text.slash || b = Text.backslash

def brokenRules (p : Package) : List BrokenRule :=
  firstBroken "CorpusEntry" "Name" [(.required, !p.name.isEmpty), (.excludesAll, !p.name.any isForbidden)] ++
  firstBroken "CorpusEntry" "Version" [(.excludesAll, !p.version.any isForbidden)] ++
  firstBroken "CorpusEntry" "Popularity" [(.min, p.popularity.all (0 ≤ ·))]

end Package

end CastAudit
