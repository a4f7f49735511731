import CastAudit.Text.Decimal

/-!
# Malformed rows

What can be wrong with a row of comma-separated values, and where. Columns count bytes from one.
-/

namespace CastAudit.Csv

/-- What is wrong with a row. -/
inductive Fault where
  /-- A quote inside a field that does not start with one. -/
  | bareQuote
  /-- A quoted field that is not closed, or goes on after its closing quote. -/
  | looseQuote
  /-- Another number of fields than the reader asks for. -/
  | fieldCount
deriving Repr, BEq, DecidableEq, Inhabited

def Fault.message : Fault → Text
  | bareQuote => "bare \" in non-quoted-field"
  | looseQuote => "extraneous or missing \" in quoted-field"
  | fieldCount => "wrong number of fields"

/-- A malformed row: the line on which it starts, and the line and column of the fault. -/
structure Error where
  startLine : Nat
  line : Nat
  column : Nat
  fault : Fault
deriving Repr, BEq, DecidableEq, Inhabited

/-- The message of a malformed row. -/
def Error.message (e : Error) : Text :=
  let place : Text := "parse error on line " ++ Text.ofNat e.line ++ ", column " ++ Text.ofNat e.column ++ ": "
  if e.fault == .fieldCount then "record on line " ++ Text.ofNat e.line ++ ": " ++ e.fault.message
  else if e.startLine ≠ e.line then
    "record on line " ++ Text.ofNat e.startLine ++ "; " ++ place ++ e.fault.message
  else place ++ e.fault.message

end CastAudit.Csv
