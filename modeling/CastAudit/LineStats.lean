import CastAudit.Fault
import CastAudit.Text.Lines

/-!
# Statistics of number files

The greatest, the sum and the count of the lines of a file that are numbers. The sum never leaves the
signed 64-bit range: the first line that would make it do so stops the reading, as does a number above
that range or a line of forbidden length.
-/

namespace CastAudit

/-- The numbers seen so far. -/
structure LineStats where
  max : Int := 0
  sum : Int := 0
  count : Nat := 0
deriving Repr, BEq, DecidableEq, Inhabited

namespace LineStats

/-- The statistics with one more number; the sum is made in 64 bits. -/
def add (st : LineStats) (n : Int) : LineStats := ⟨Max.max st.max n, Text.wrap64 (st.sum + n), st.count + 1⟩

/-- The greatest number that can still be added; the difference is made in 64 bits. -/
def room (st : LineStats) : Int := Text.wrap64 (Text.maxInt64 - st.sum)

/-- The statistics with one more numbered line. A line that is no number adds nothing. -/
def addLine (st : LineStats) (numbered : Text × Nat) : Except Fault LineStats :=
  let (line, number) := numbered
  let digits := Text.dropEnd line Text.isLineBlank
  if !Text.isDigits digits then .ok st
  else match Text.readInt64 digits with
    | .error _ => .error (.within ("line " ++ Text.ofNat number) (.bigNumber digits))
    | .ok n =>
      if st.room < n then .error (.within ("line " ++ Text.ofNat number) (.plain "sum overflows int64"))
      else .ok (st.add n)

/-- The statistics after numbered lines, up to the first that cannot be added. -/
def ofNumbered (st : LineStats) : List (Text × Nat) → LineStats × Option Fault
  | [] => (st, none)
  | line :: rest =>
    match st.addLine line with
    | .ok st => ofNumbered st rest
    | .error fault => (st, some fault)

def ofContent (content : Text) : LineStats × Option Fault :=
  let input := Lines.read Lines.narrow content
  match ofNumbered {} (input.lines.zipIdx 1) with
  | (st, none) => (st, if input.tooLong then some .longLine else none)
  | stopped => stopped

def print (st : LineStats) : Text :=
  "max " ++ Text.ofInt st.max ++ "\nsum " ++ Text.ofInt st.sum ++ "\ncnt " ++ Text.ofNat st.count ++ "\n"

end LineStats

end CastAudit
