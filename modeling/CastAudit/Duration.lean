import CastAudit.Text.Decimal

/-!
# Durations

A duration is written as numbers with units, such as `1h30m` or `-1.5s`. It is counted in nanoseconds and
fits 64 bits.
-/

namespace CastAudit.Duration

/-- The units with their nanoseconds. -/
def units : List (Text × Nat) :=
  [("ns", 1), ("us", 1000), ("µs", 1000), ("μs", 1000), ("ms", 1000000), ("s", 1000000000),
   ("m", 60000000000), ("h", 3600000000000)]

def isNumberByte (b : UInt8) : Bool := Text.isDigit b || b = Text.dot

/-- The nanoseconds of the number with its unit at the front of a text, and what follows it. -/
def part? (s : Text) : Option (Nat × Text) := do
  let whole := s.takeWhile Text.isDigit
  let rest := s.dropWhile Text.isDigit
  let hasPoint := rest.head? == some Text.dot
  let fraction := if hasPoint then (rest.drop 1).takeWhile Text.isDigit else []
  let rest := if hasPoint then (rest.drop 1).dropWhile Text.isDigit else rest
  if whole.isEmpty && fraction.isEmpty then none
  let unit ← units.lookup (rest.takeWhile fun b => !isNumberByte b)
  some (Text.digitsValue whole * unit + Text.digitsValue fraction * unit / Nat.pow 10 fraction.length,
    rest.dropWhile fun b => !isNumberByte b)

/-- The nanoseconds of a text after those already read. Every part takes a byte, so `fuel` bounds them. -/
def sumFrom (fuel total : Nat) (s : Text) : Option Nat :=
  match fuel with
  | 0 => none
  | fuel + 1 =>
    if s.isEmpty then some total
    else match part? s with
      | some (n, rest) => sumFrom fuel (total + n) rest
      | none => none

/-- The nanoseconds of a duration. A zero needs no unit. -/
def nanoseconds? (s : Text) : Option Int := do
  let (negative, body) := Text.signOf s
  if body.isEmpty then none
  let total ← if body == [0x30] then some 0 else sumFrom (body.length + 1) 0 body
  match Text.signed64 negative total with
  | .ok n => some n
  | .error _ => none

end CastAudit.Duration
