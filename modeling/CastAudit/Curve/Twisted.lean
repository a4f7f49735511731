import CastAudit.Curve
import CastAudit.Digest.Wide

/-!
# The twisted curve

The points of the curve `y² - x² = 1 + d x² y²` over the field of `2 ^ 255 - 19` elements. One formula adds any
two of them. The public key of a seed is a multiple of the start point, written as thirty-two bytes: `y`, lowest
byte first, with the lowest bit of `x` in the highest place.
-/

namespace CastAudit.Curve.Twisted

/-- The size of the field. -/
abbrev prime : Nat := Nat.pow 2 255 - 19

/-- The power of a field element. -/
def power (base exponent : Nat) : Nat :=
  (bits exponent).reverse.foldl (fun p bit => p * p % prime * (if bit then base else 1) % prime) 1

/-- The quotient of two field elements. -/
def quotient (a b : Nat) : Nat := a % prime * power (b % prime) (prime - 2) % prime

/-- The number `d` of the equation. -/
def factor : Nat := quotient (prime - 121665) 121666

def start : Nat × Nat :=
  (0x216936d3cd6e53fec0a4e231fdd6dc5c692cc7609525a7b2c9562d608f25d51a,
   0x6666666666666666666666666666666666666666666666666666666666666658)

/-- The sum of two points. -/
def add (p q : Nat × Nat) : Nat × Nat :=
  let shared := factor * (p.1 * q.1 % prime) % prime * (p.2 * q.2 % prime) % prime
  (quotient (p.1 * q.2 + p.2 * q.1) (1 + shared), quotient (p.2 * q.2 + p.1 * q.1) (prime + 1 - shared))

/-- The start point added as often as a number says. -/
def multiple (n : Nat) : Nat × Nat :=
  (bits n).reverse.foldl (fun p bit =>
    let twice := add p p
    if bit then add twice start else twice) (0, 1)

/-- The number of some bytes, lowest first. -/
def number (bytes : Text) : Nat := bytes.foldr (fun b n => b.toNat + 256 * n) 0

/-- The secret number of a seed: the front half of its digest, with its three lowest bits cleared and its
highest place fixed. -/
def secret (seed : Text) : Nat :=
  Nat.pow 2 254 + number ((Digest.Wide.sha512 seed).take 32) % Nat.pow 2 254 / 8 * 8

/-- The written form of a point. -/
def write (p : Nat × Nat) : Text := (Digest.bigEndian 32 (p.2 + p.1 % 2 * Nat.pow 2 255)).reverse

def publicKey (seed : Text) : Text := write (multiple (secret seed))

end CastAudit.Curve.Twisted
