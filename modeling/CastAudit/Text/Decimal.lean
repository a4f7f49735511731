import CastAudit.Text.Basic

/-!
# Decimal numbers

Printing natural numbers and integers, reading runs of digits, and reading signed 64-bit numbers.
A number outside the 64-bit range is an error of its own and carries the nearest bound, because one
reader of the record store keeps that bound.
-/

namespace CastAudit.Text

/-- The digits of a number, least significant first, put before `acc`; `fuel` bounds their count. -/
def digitsFrom (fuel n : Nat) (acc : Text) : Text :=
  match fuel with
  | 0 => acc
  | fuel + 1 =>
    let acc := (0x30 + n % 10).toUInt8 :: acc
    if n < 10 then acc else digitsFrom fuel (n / 10) acc

/-- The decimal form of a natural number. -/
def ofNat (n : Nat) : Text := digitsFrom (n + 1) n []

/-- The decimal form of an integer. -/
def ofInt (i : Int) : Text := if i < 0 then dash :: ofNat i.natAbs else ofNat i.natAbs

/-- The form of an integer padded with spaces on the left to at least `width` bytes. -/
def padLeft (width : Nat) (s : Text) : Text := List.replicate (width - s.length) space ++ s

/-- A text padded with spaces on the right to at least `width` bytes. -/
def padRight (width : Nat) (s : Text) : Text := s ++ List.replicate (width - s.length) space

def digitsValue (s : Text) : Nat := s.foldl (fun n b => n * 10 + (b.toNat - 0x30)) 0

/-- A non-empty run of digits. -/
def isDigits (s : Text) : Bool := !s.isEmpty && s.all isDigit

/-! ## signed 64-bit numbers -/

/-- The least signed 64-bit number. -/
abbrev minInt64 : Int := -0x8000000000000000

/-- The greatest signed 64-bit number. -/
abbrev maxInt64 : Int := 0x7fffffffffffffff

/-- The signed 64-bit number with the same remainder modulo 2^64. -/
def wrap64 (i : Int) : Int := Int.bmod i 0x10000000000000000

/-- The sum of some numbers in 64 bits. -/
def sum64 (numbers : List Int) : Int := wrap64 (numbers.foldr (· + ·) 0)

/-- Why a text is no signed 64-bit number. -/
inductive NumberError where
  /-- It is no number at all. -/
  | malformed
  /-- It is a number outside the range; `nearest` is the bound that it passes. -/
  | outOfRange (nearest : Int)
deriving Repr, BEq, DecidableEq

/-- The signed number with the given sign and magnitude, if it fits 64 bits. -/
def signed64 (negative : Bool) (magnitude : Nat) : Except NumberError Int :=
  if negative then
    if magnitude ≤ 0x8000000000000000 then .ok (-(magnitude : Int)) else .error (.outOfRange minInt64)
  else if magnitude < 0x8000000000000000 then .ok magnitude else .error (.outOfRange maxInt64)

/-- A sign and the text after it. -/
def signOf : Text → Bool × Text
  | [] => (false, [])
  | b :: r => if b = dash then (true, r) else if b = 0x2b then (false, r) else (false, b :: r)

/-- The digit value of a byte in bases up to sixteen. -/
def baseDigit? (base : Nat) (b : UInt8) : Option Nat :=
  if isHexDigit b && hexValue b < base then some (hexValue b) else none

/-- The bound at which reading a magnitude stops, above all 64-bit numbers. -/
abbrev tooLarge : Nat := 0x10000000000000000

/-- The value of the digits of a base after the value `n` of those before them, with underscores passed
over where they are allowed. Reading stops with `tooLarge` as soon as the value reaches that bound. -/
def magnitudeFrom (base : Nat) (underscores : Bool) : Nat → Text → Except NumberError Nat
  | n, [] => .ok n
  | n, b :: r =>
    if underscores && b = 0x5f then magnitudeFrom base underscores n r
    else match baseDigit? base b with
      | none => .error .malformed
      | some d => if n * base + d < tooLarge then magnitudeFrom base underscores (n * base + d) r else .ok tooLarge

/-- Reads an optional sign and decimal digits as a signed 64-bit number. A number that leaves even the
unsigned range is out of range whatever follows it. -/
def readInt64 (s : Text) : Except NumberError Int := do
  let (negative, digits) := signOf s
  if digits.isEmpty then throw .malformed
  let n ← magnitudeFrom 10 false 0 digits
  signed64 negative n

/-- The greatest length of a number text that `readStoredInt` reads by plain digits. -/
abbrev shortNumber : Nat := 18

/-- Reads a decimal number as the record store does: in a text too short to leave the 64-bit range any
other byte makes it malformed, a longer one is read by `readInt64`. -/
def readStoredInt (s : Text) : Except NumberError Int :=
  let (negative, digits) := signOf s
  if s.length ≤ shortNumber then
    if isDigits digits then
      .ok (if negative then -(digitsValue digits : Int) else digitsValue digits)
    else .error .malformed
  else readInt64 s

/-! ## numbers with a base mark -/

/-- The state of the underscore rule: what the last byte was. -/
inductive UnderscoreState where
  | start
  | digit
  | underscore
  | other
deriving BEq

/-- One step of the underscore rule: an underscore needs a digit before it and one after it. -/
def underscoreStep (st : Option UnderscoreState) (hex : Bool) (b : UInt8) : Option UnderscoreState := do
  let st ← st
  if isDigit b || (hex && isHexDigit b) then some .digit
  else if b = 0x5f then (if st == .digit then some .underscore else none)
  else if st == .underscore then none
  else some .other

/-- Underscores stand only between digits; a base mark counts as a digit. -/
def underscoresFit (s : Text) : Bool :=
  let body := (signOf s).2
  let mark := body.length ≥ 2 && body.head? == some 0x30 &&
    (((body.drop 1).head?.map lowerByte).any fun b => b = 0x62 || b = 0x6f || b = 0x78)
  let hex := mark && ((body.drop 1).head?.map lowerByte) == some 0x78
  let rest := if mark then body.drop 2 else body
  match rest.foldl (fun st b => underscoreStep st hex b) (some (if mark then .digit else .start)) with
  | none => false
  | some st => st != .underscore

/-- Reads a signed 64-bit number whose base is given by a mark: `0x` sixteen, `0o` or a leading `0`
eight, `0b` two, otherwise ten. Underscores may stand between digits. -/
def readMarkedInt64 (s : Text) : Except NumberError Int :=
  let (negative, body) := signOf s
  let second := (body.drop 1).head?.map lowerByte
  let split : Nat × Text :=
    if body.head? == some 0x30 then
      if body.length ≥ 3 && second == some 0x62 then (2, body.drop 2)
      else if body.length ≥ 3 && second == some 0x6f then (8, body.drop 2)
      else if body.length ≥ 3 && second == some 0x78 then (16, body.drop 2)
      else (8, body.drop 1)
    else (10, body)
  if body.isEmpty then .error .malformed
  else match magnitudeFrom split.1 true 0 split.2 with
    | .error e => .error e
    | .ok n =>
      -- a number out of range is told as such before its underscores are looked at
      if n < tooLarge && split.2.any (· = 0x5f) && !underscoresFit s then .error .malformed
      else signed64 negative n

end CastAudit.Text
