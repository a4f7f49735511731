import CastAudit.Text.Decimal

/-!
# Exact numbers

The value of a number that is written with digits, a fraction and an exponent, with nothing rounded, and the
ways to write such a number with as many digits as it has.
-/

namespace CastAudit

/-- The number `mantissa · 10 ^ exponent`. -/
structure Decimal where
  mantissa : Int
  exponent : Int
deriving Repr, BEq, DecidableEq, Inhabited

namespace Decimal

/-! ## literals -/

/-- The parts of a number literal. -/
structure Literal where
  isNegative : Bool
  whole : Text
  fraction : Text
  /-- The exponent, zero if none is written. -/
  power : Int
deriving Repr, BEq, DecidableEq, Inhabited

/-- The parts of a text that is a number literal: a sign, digits, a fraction and an exponent, of which only
digits are needed. -/
def Literal.of (literal : Text) : Literal :=
  let (isNegative, body) := Text.signOf literal
  let rest := body.dropWhile Text.isDigit
  let hasPoint := rest.head? == some Text.dot
  let fraction := if hasPoint then (rest.drop 1).takeWhile Text.isDigit else []
  let rest := if hasPoint then (rest.drop 1).dropWhile Text.isDigit else rest
  let (isDown, digits) := Text.signOf (rest.drop 1)
  let power : Int := Text.digitsValue digits
  { isNegative, whole := body.takeWhile Text.isDigit, fraction, power := if isDown then -power else power }

def Literal.magnitude (l : Literal) : Nat := Text.digitsValue (l.whole ++ l.fraction)

/-- The exact value of a literal. -/
def Literal.value (l : Literal) : Decimal :=
  ⟨if l.isNegative then -(l.magnitude : Int) else l.magnitude, l.power - l.fraction.length⟩

/-- The greatest exponent of either sign that is worked with. -/
abbrev maxExponent : Nat := 1000000

/-- The value of a number literal, unless its exponent is too far from zero. Zero needs no exponent. -/
def ofLiteral? (literal : Text) : Option Decimal :=
  let l := Literal.of literal
  if l.whole.isEmpty || Text.wrap64 l.power ≠ l.power then none
  else if l.magnitude = 0 then some ⟨0, 0⟩
  else if maxExponent < l.value.exponent.natAbs then none
  else some l.value

/-! ## comparing -/

/-- The two mantissas at the smaller of the two exponents. -/
def align (a b : Decimal) : Int × Int :=
  let e := min a.exponent b.exponent
  (a.mantissa * Nat.pow 10 (a.exponent - e).toNat, b.mantissa * Nat.pow 10 (b.exponent - e).toNat)

def less (a b : Decimal) : Bool := let (m, n) := align a b; m < n

/-- `b` is `a` times a whole number. -/
def divides (a b : Decimal) : Bool := let (m, n) := align a b; n % m == 0

def isWhole (d : Decimal) : Bool := 0 ≤ d.exponent || d.mantissa % Nat.pow 10 d.exponent.natAbs == 0

/-! ## writing -/

/-- The digits without trailing zeros, and the exponent that goes with them. -/
def stripZeros (digits : Text) (exponent : Int) : Text × Int :=
  let kept := Text.dropEnd digits (· = 0x30)
  (kept, exponent + (digits.length - kept.length : Nat))

/-- How a number is shown: from which place on with an exponent at either end, and how many digits an
exponent has at least. -/
structure Style where
  /-- Shown with an exponent when the first digit stands below this power of ten. -/
  low : Int
  /-- Shown with an exponent when the first digit stands at this power of ten or above. -/
  high : Int
  exponentDigits : Nat

/-- The digits of a positive number in a style. -/
def printMagnitude (style : Style) (magnitude : Nat) (exponent : Int) : Text :=
  let (digits, e) := stripZeros (Text.ofNat magnitude) exponent
  let top : Int := digits.length - 1 + e
  if top < style.low || style.high ≤ top then
    let tail : Text := digits.drop 1
    let power := Text.ofNat top.natAbs
    digits.take 1 ++ (if tail.isEmpty then [] else Text.dot :: tail) ++ [0x65] ++
      (if top < 0 then [Text.dash] else [0x2b]) ++ List.replicate (style.exponentDigits - power.length) 0x30 ++ power
  else if 0 ≤ e then digits ++ List.replicate e.toNat 0x30
  else if top < 0 then [0x30, Text.dot] ++ List.replicate (top.natAbs - 1) 0x30 ++ digits
  else digits.take (top.toNat + 1) ++ Text.dot :: digits.drop (top.toNat + 1)

def print (style : Style) (isNegative : Bool) (magnitude : Nat) (exponent : Int) : Text :=
  (if isNegative then [Text.dash] else []) ++
    if magnitude = 0 then [0x30] else printMagnitude style magnitude exponent

end Decimal

end CastAudit
