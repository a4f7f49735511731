import CastAudit.Kind

/-!
# Findings and failures

A `Record` is one finding of a log, a `Failure` a header of a log that gave none.
-/

namespace CastAudit

/-- One finding extracted from a log. -/
structure Record where
  kind : Kind := .none
  packageId : Text := []
  /-- The function that holds the conversion or bug. -/
  caller : Text := []
  fromType : Text := []
  toType : Text := []
  /-- The first part of a cast's result, such as `mut`. -/
  mutability : Text := []
  /-- The layout note of a cast or the reason given for a transmute. -/
  note : Text := []
  /-- Where in the source the finding lies. -/
  location : Text := []
  logPath : Text := []
  /-- The number of the header line in the log, counted from one. -/
  line : Int := 0
deriving Repr, BEq, DecidableEq, Inhabited

namespace Record

/-- Header and source location are both there. -/
def complete (r : Record) : Bool := r.kind != .none && !r.location.isEmpty

/-- The conversion as `from>to`; empty for a kind without types. -/
def conversion (r : Record) : Text :=
  if r.kind.isConversion then r.fromType ++ ">" ++ r.toType else []

end Record

/-- A header line, or a whole log, that could not be turned into a record. -/
structure Failure where
  packageId : Text := []
  logPath : Text := []
  line : Int := 0
  reason : Text := []
deriving Repr, BEq, DecidableEq, Inhabited

end CastAudit
