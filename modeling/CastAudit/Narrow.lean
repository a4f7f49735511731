import CastAudit.Fault
import CastAudit.Package
import CastAudit.Record

/-!
# Numbers for the database

The database keeps numbers in 32 bits. Before anything is sent, every number is checked; the first one
that does not fit is the fault.
-/

namespace CastAudit.Narrow

/-- The number fits a signed 32-bit column. -/
def fits (i : Int) : Bool := -0x80000000 ≤ i && i < 0x80000000

/-- Checks the numbers of numbered items; `what` names such an item. -/
def check (what : Text) (numbers : List Int) : Except Fault Unit :=
  (numbers.zipIdx).forM fun p =>
    if fits p.2 && fits p.1 then .ok ()
    else .error (.within ("failed to save " ++ what ++ " " ++ Text.ofNat p.2) .outOfRange)

/-- The positions and lines of records fit. -/
def records (rs : List Record) : Except Fault Unit := check "record" (rs.map Record.line)

/-- The positions and lines of failures fit. -/
def failures (fs : List Failure) : Except Fault Unit := check "failure" (fs.map Failure.line)

/-- The positions of packages fit. -/
def packages (ps : List Package) : Except Fault Unit := check "package" (ps.map fun _ => 0)

/-- The totals of a run fit. -/
def totals (counts : List Int) : Except Fault Unit :=
  if counts.all fits then .ok () else .error (.within "failed to complete run" .outOfRange)

end CastAudit.Narrow
