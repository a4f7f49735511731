import CastAudit.Header
import CastAudit.Fault

/-!
# Fields of a header

`extract` takes the fields of a finding from its header line.

* A conversion is written `caller>from>to=>result` between the marker and a closing parenthesis. A type
  name that holds `>` cannot be told from two segments, so the counts are exact.
* A bug report names its caller between the first two backticks of the line.
-/

namespace CastAudit.Header

/-- The fields that a header gives. -/
structure Fields where
  caller : Text := []
  fromType : Text := []
  toType : Text := []
  mutability : Text := []
  note : Text := []
deriving Repr, BEq, DecidableEq, Inhabited

/-- The part of a conversion header after its marker, without blanks at the end and without one
closing parenthesis. -/
def payload (marker line : Text) : Text :=
  Text.chopSuffix (Text.dropEnd (line.drop marker.length) Text.isLineBlank) ")"

/-- The caller in the first segment of a conversion. -/
def callerOf (segment : Text) : Text := Text.trim (Text.chopPrefix (Text.trim segment) "fn ")

/-- The fields before `=>` and the text after it. -/
def splitConversion (payload : Text) : Except HeaderProblem (Fields × Text) :=
  match Text.splitOn payload "=>" with
  | [source, result] =>
    match Text.splitOn source ">" with
    | [caller, fromType, toType] =>
      if (callerOf caller).isEmpty then .error .emptyCaller
      else .ok ({ caller := callerOf caller, fromType := Text.trim fromType, toType := Text.trim toType }, result)
    | segments => .error (.segments segments.length)
  -- what is told is the number of arrows, which is one less
  | sides => .error (.sides (sides.length - 1))

/-- The fields of a cast: the result holds mutability and note, and the note may hold one `>`. -/
def castFields (payload : Text) : Except HeaderProblem Fields := do
  let (fields, result) ← splitConversion payload
  match Text.splitOn result ">" with
  | [mutability, note] => .ok { fields with mutability := Text.trim mutability, note := Text.trim note }
  | [mutability, a, b] =>
    .ok { fields with mutability := Text.trim mutability, note := Text.trim a ++ ">" ++ Text.trim b }
  | segments => .error (.results segments.length)

/-- The fields of a transmute: the whole result is the note. -/
def transmuteFields (payload : Text) : Except HeaderProblem Fields := do
  let (fields, result) ← splitConversion payload
  .ok { fields with note := Text.trim result }

/-- The byte that quotes a caller in a bug report. -/
abbrev backtick : Text := [0x60]

def bugFields (line : Text) : Except HeaderProblem Fields :=
  match Text.cut? line backtick with
  | none => .error .noCaller
  | some (_, rest) =>
    match Text.cut? rest backtick with
    | none => .error .openCaller
    | some (caller, _) =>
      if (Text.trim caller).isEmpty then .error .emptyCaller else .ok { caller := Text.trim caller }

def fieldsOf (line : Text) (kind : Kind) : Except HeaderProblem Fields :=
  match kind.marker? with
  | none => .error .noGrammar
  | some marker =>
    let line := clean line
    if Text.startsWith line marker then
      match kind with
      | .cast => castFields (payload marker line)
      | .transmute => transmuteFields (payload marker line)
      | _ => bugFields line
    else .error .noMarker

/-- The record that a header line of a kind opens, still without a location. -/
def extract (line : Text) (kind : Kind) : Except Fault Record :=
  match fieldsOf line kind with
  | .ok f =>
    .ok { kind, caller := f.caller, fromType := f.fromType, toType := f.toType,
          mutability := f.mutability, note := f.note }
  | .error p => .error (.header kind p none)

end CastAudit.Header
