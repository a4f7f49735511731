import CastAudit.Record
import CastAudit.Text.Blank

/-!
# Header lines

Each kind announces its findings by a line that starts with a fixed marker. `classify` tells the kind
of a line; a line that is not valid UTF-8 announces nothing.
-/

namespace CastAudit

/-- The marker that a header line of a kind starts with. -/
def Kind.marker? : Kind → Option Text
  | .cast => some "warning: Here is cast("
  | .transmute => some "warning: Here is transmute("
  | .brokenLayout => some "Error (BrokenLayout:):"
  | .uninitExposure => some "Error (UninitExposure:):"
  | .brokenBitPatterns => some "Error (BrokenBitPatterns:):"
  | .none | .other _ => .none

namespace Header

abbrev byteOrderMark : Text := [0xef, 0xbb, 0xbf]

/-- A line without one leading byte-order mark and without trailing line ends. -/
def clean (line : Text) : Text := Text.dropEnd (Text.chopPrefix line byteOrderMark) Text.isLineEnd

/-- A clean line starts with the marker of a kind. -/
def announces (line : Text) (kind : Kind) : Bool :=
  match kind.marker? with
  | some marker => Text.startsWith line marker
  | none => false

/-- The kind is looked for: an empty list looks for all. -/
def wanted (kinds : List Kind) (kind : Kind) : Bool := kinds.isEmpty || kinds.contains kind

/-- The kind that a line announces among those looked for, or `Kind.none`. -/
def classify (line : Text) (kinds : List Kind) : Kind :=
  let line := clean line
  if Text.valid line then
    (Kind.recognized.find? fun k => wanted kinds k && announces line k).getD .none
  else .none

end Header

end CastAudit
