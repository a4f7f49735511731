import CastAudit.Text.Decimal

/-!
# Internet addresses

The two written forms of an internet address: four decimal numbers, and groups of hexadecimal digits of
which one run may be left out. The last two groups may be written as four decimal numbers.
-/

namespace CastAudit.Internet

/-- A group of hexadecimal digits of an internet address. -/
def isGroup (s : Text) : Bool := !s.isEmpty && s.length ≤ 4 && s.all Text.isHexDigit

/-- The four decimal numbers of a short internet address. -/
def isShortAddress (s : Text) : Bool :=
  let parts := Text.splitOn s "."
  parts.length = 4 && parts.all fun p =>
    Text.isDigits p && Text.digitsValue p < 256 && (p.length = 1 || p.head? != some 0x30)

/-- The number of groups before the gap of a long internet address. -/
def frontCount? (s : Text) : Option Nat :=
  let groups := if s.isEmpty then [] else Text.splitOn s ":"
  if groups.all isGroup then some groups.length else none

/-- The number of groups at the end of a long internet address. -/
def backCount? (s : Text) : Option Nat :=
  let groups := Text.splitOn s ":"
  if isShortAddress (groups.getLastD []) then
    if groups.dropLast.all isGroup then some (groups.length + 1) else none
  else frontCount? s

/-- A long internet address: eight groups, or fewer with one gap. -/
def isLongAddress (s : Text) : Bool :=
  match Text.cut? s "::" with
  | none => backCount? s == some 8
  | some (front, back) =>
    match frontCount? front, backCount? back with
    | some a, some b => a + b ≤ 7
    | _, _ => false

/-- An internet address of either form. -/
def isAddress (s : Text) : Bool := isShortAddress s || isLongAddress s

/-- A long internet address, perhaps with a percent sign and the name of a zone behind it. -/
def isZonedAddress (s : Text) : Bool :=
  match Text.cut? s "%" with
  | none => isLongAddress s
  | some (address, zone) => isLongAddress address && !zone.isEmpty

end CastAudit.Internet
