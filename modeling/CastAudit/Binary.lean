import CastAudit.Decimal

/-!
# Rounded numbers

Numbers with a bounded count of binary digits. `Binary.nearest` rounds a quotient to such a number, and
`Binary.shortest` gives the fewest decimal digits that are rounded back to it: of two decimals with that many
digits the nearer one. A double has 53 binary digits and a least exponent; it is too large from a bound on.
-/

namespace CastAudit

/-- The number `mantissa · 2 ^ exponent`. -/
structure Binary where
  mantissa : Nat
  exponent : Int
deriving Repr, BEq, DecidableEq, Inhabited

namespace Binary

/-- The number of binary digits. -/
def bitLength (n : Nat) : Nat := if n = 0 then 0 else n.log2 + 1

/-- The two sides of the quotient `a / b / base ^ e` as whole numbers. -/
def scaled (base a b : Nat) (e : Int) : Nat × Nat := (a * Nat.pow base (-e).toNat, b * Nat.pow base e.toNat)

/-! ## rounding -/

/-- The whole number nearest to `a / b`, of two the even one. -/
def divideRounded (a b : Nat) : Nat :=
  let quotient := a / b
  let rest := 2 * (a % b)
  if rest < b || (rest = b && quotient % 2 = 0) then quotient else quotient + 1

/-- The number with `places` binary digits nearest to `a / b`; exponents below `least` are not used. -/
def nearest (places : Nat) (least : Option Int) (a b : Nat) : Binary :=
  let guess : Int := (bitLength a : Int) - bitLength b - places
  let (x, y) := scaled 2 a b guess
  let exponent := if x / y < Nat.pow 2 places then guess else guess + 1
  let exponent := match least with
    | some l => max exponent l
    | none => exponent
  let (x, y) := scaled 2 a b exponent
  ⟨divideRounded x y, exponent⟩

/-! ## decimal digits -/

/-- Corrects a guess at the power of ten above `a / b`, in at most `fuel` steps. -/
def orderFrom (a b : Nat) (fuel : Nat) (guess : Int) : Int :=
  match fuel with
  | 0 => guess
  | fuel + 1 =>
    let (x, y) := scaled 10 a b guess
    if y ≤ x then orderFrom a b fuel (guess + 1)
    else
      let (x, y) := scaled 10 a b (guess - 1)
      if x < y then orderFrom a b fuel (guess - 1) else guess

/-- The `k` with `10 ^ (k - 1) ≤ a / b < 10 ^ k`. -/
def order (a b : Nat) : Int :=
  orderFrom a b 8 ((((bitLength a : Int) - bitLength b) * 30103).fdiv 100000)

/-- The numbers between which all decimals are rounded to one number: `value`, `low` and `high`, each over
the common `divisor`. The ends belong to it if `closed`. -/
structure Interval where
  value : Nat
  low : Nat
  high : Nat
  divisor : Nat
  closed : Bool

/-- The decimal with the fewest digits in an interval, from `digits` digits on, as its digits and their
exponent. -/
def fewestFrom (i : Interval) (top : Int) (fuel digits : Nat) : Nat × Int :=
  let unit := top - digits
  -- the value lies between `down` and `down + 1` units
  let (x, y) := scaled 10 i.value i.divisor unit
  let down := x / y
  match fuel with
  | 0 => (down, unit)
  | fuel + 1 =>
    let low := (scaled 10 i.low i.divisor unit).1
    let high := (scaled 10 i.high i.divisor unit).1
    let fitsDown := low < down * y || (i.closed && low = down * y)
    let fitsUp := (down + 1) * y < high || (i.closed && (down + 1) * y = high)
    -- where both neighbours are in the interval, the nearer one is taken
    if fitsDown && fitsUp then (divideRounded x y, unit)
    else if fitsDown then (down, unit)
    else if fitsUp then (down + 1, unit)
    else fewestFrom i top fuel (digits + 1)

/-- The numbers that are rounded to one number. Below a power of two the next number may be only half as
far. -/
def interval (b : Binary) (halfBelow : Bool) : Interval :=
  let whole := Nat.pow 2 (b.exponent - 2).toNat
  { value := 4 * b.mantissa * whole
    low := (4 * b.mantissa - (if halfBelow then 1 else 2)) * whole
    high := (4 * b.mantissa + 2) * whole
    divisor := Nat.pow 2 (2 - b.exponent).toNat
    closed := b.mantissa % 2 = 0 }

/-- The fewest decimal digits that are rounded to a number, and their exponent. -/
def shortest (b : Binary) (halfBelow : Bool) : Nat × Int :=
  if b.mantissa = 0 then (0, 0)
  else
    let i := b.interval halfBelow
    fewestFrom i (order i.value i.divisor) (bitLength b.mantissa + 4) 1

/-! ## doubles -/

/-- The binary digits of a double. -/
abbrev doublePlaces : Nat := 53

/-- The least exponent of a double. -/
abbrev doubleLeast : Int := -1074

/-- The double nearest to a magnitude, if it is not too large. -/
def double? (magnitude : Nat) (exponent : Int) : Option Binary :=
  if magnitude = 0 then some ⟨0, 0⟩
  else
    let digits : Int := (Text.ofNat magnitude).length
    if 310 < digits + exponent then none
    else if digits + exponent < -330 then some ⟨0, 0⟩
    else
      let (a, b) := scaled 10 magnitude 1 (-exponent)
      let d := nearest doublePlaces (some doubleLeast) a b
      if (bitLength d.mantissa : Int) + d.exponent ≤ 1024 then some d else none

/-- The fewest decimal digits of a double. -/
def doubleDigits (d : Binary) : Nat × Int :=
  d.shortest (d.mantissa = Nat.pow 2 (doublePlaces - 1) && doubleLeast < d.exponent)

end Binary

namespace Decimal

/-- The number as a fraction in lowest terms. -/
def fraction (d : Decimal) : Nat × Nat :=
  let (a, b) := Binary.scaled 10 d.mantissa.natAbs 1 (-d.exponent)
  let common := Nat.gcd a b
  (a / common, b / common)

/-- How many binary digits a fraction is rounded to at least. -/
abbrev leastPlaces : Nat := 64

/-- The number in a style, after it is rounded to as many binary digits as its fraction has. -/
def printRounded (style : Style) (d : Decimal) : Text :=
  let (a, b) := d.fraction
  let places := Nat.max leastPlaces (Nat.max (Binary.bitLength a) (Binary.bitLength b))
  if a = 0 then print style false 0 0
  else
    let (magnitude, exponent) := (Binary.nearest places none a b).shortest false
    print style (d.mantissa < 0) magnitude exponent

end Decimal

end CastAudit
