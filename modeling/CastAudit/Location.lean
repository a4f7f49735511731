import CastAudit.Header

/-!
# Source locations

The line after a header carries the source location: for conversions behind an arrow, otherwise after
three columns.
-/

namespace CastAudit.Location

/-- The arrow before the location of a conversion. -/
abbrev arrow : Text := "-->"

/-- The number of columns dropped from a line without an arrow. -/
abbrev columns : Nat := 3

/-- A location as it is stored: valid UTF-8 and trimmed. -/
def tidy (s : Text) : Text := Text.trim (Text.repair s)

/-- The location on the line after a header of a kind; empty when there is none. -/
def extract (line : Text) (kind : Kind) : Text :=
  let line := Header.clean line
  match kind.marker? with
  | none => []
  | some _ =>
    if kind.isConversion then
      match Text.cut? line arrow with
      | some (_, rest) => tidy rest
      | none => tidy (Text.dropPieces line columns)
    else tidy (Text.dropPieces line columns)

end CastAudit.Location
