import CastAudit.Text.Basic

/-!
# Texts of base sixty-four

Four digits of base sixty-four stand for three bytes. The last four may have one or two equals signs for
digits, and then stand for fewer. Line ends between the digits do not count.
-/

namespace CastAudit.Text

/-- The value of a digit of base sixty-four. -/
def digit64? (b : UInt8) : Option Nat :=
  if 0x41 ≤ b && b ≤ 0x5a then some (b.toNat - 0x41)
  else if 0x61 ≤ b && b ≤ 0x7a then some (b.toNat - 0x61 + 26)
  else if isDigit b then some (b.toNat - 0x30 + 52)
  else if b = 0x2b then some 62
  else if b = slash then some 63
  else none

/-- The first `count` of the three bytes of a number. -/
def bytesOf24 (count n : Nat) : Text := [(n / 0x10000).toUInt8, (n / 0x100).toUInt8, n.toUInt8].take count

/-- The bytes of the digits after those already read, last first. -/
def fromBase64From (seen : Text) : List Nat → Option Text
  | [] => some seen.reverse
  | [a, b] => some (seen.reverse ++ bytesOf24 1 (a * 0x40000 + b * 0x1000))
  | [a, b, c] => some (seen.reverse ++ bytesOf24 2 (a * 0x40000 + b * 0x1000 + c * 0x40))
  | a :: b :: c :: d :: rest =>
    fromBase64From ((bytesOf24 3 (a * 0x40000 + b * 0x1000 + c * 0x40 + d)).reverse ++ seen) rest
  | [_] => none

/-- The bytes that a text of base sixty-four stands for. -/
def fromBase64? (s : Text) : Option Text := do
  let s := s.filter fun b => !isLineEnd b
  let digits := dropEnd s (· = 0x3d)
  if s.length % 4 ≠ 0 || 2 < s.length - digits.length then none
  fromBase64From [] (← digits.mapM digit64?)

end CastAudit.Text
