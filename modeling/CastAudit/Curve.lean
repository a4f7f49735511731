import CastAudit.Text.Basic

/-!
# Elliptic curves

The points of the curves `y² = x³ - 3x + b` over four prime fields, with their addition. Multiplying the start
point of a curve by a secret number gives the public key that belongs to it.
-/

namespace CastAudit

/-- A curve and a point on it. -/
structure Curve where
  /-- The bytes by which certificates name the curve. -/
  name : Text
  /-- The size of the field. -/
  prime : Nat
  /-- How often the start point is added to get back to nothing. -/
  order : Nat
  /-- The number `b` of the equation. -/
  shift : Nat
  start : Nat × Nat

namespace Curve

/-- The curve over a field of 224 bits. -/
def curve224 : Curve where
  name := [0x2b, 0x81, 0x04, 0x00, 0x21]
  prime :=
    0xffffffffffffffffffffffffffffffff000000000000000000000001
  order :=
    0xffffffffffffffffffffffffffff16a2e0b8f03e13dd29455c5c2a3d
  shift :=
    0xb4050a850c04b3abf54132565044b0b7d7bfd8ba270b39432355ffb4
  start :=
    (0xb70e0cbd6bb4bf7f321390b94a03c1d356c21122343280d6115c1d21,
     0xbd376388b5f723fb4c22dfe6cd4375a05a07476444d5819985007e34)

/-- The curve over a field of 256 bits. -/
def curve256 : Curve where
  name := [0x2a, 0x86, 0x48, 0xce, 0x3d, 0x03, 0x01, 0x07]
  prime :=
    0xffffffff00000001000000000000000000000000ffffffffffffffffffffffff
  order :=
    0xffffffff00000000ffffffffffffffffbce6faada7179e84f3b9cac2fc632551
  shift :=
    0x5ac635d8aa3a93e7b3ebbd55769886bc651d06b0cc53b0f63bce3c3e27d2604b
  start :=
    (0x6b17d1f2e12c4247f8bce6e563a440f277037d812deb33a0f4a13945d898c296,
     0x4fe342e2fe1a7f9b8ee7eb4a7c0f9e162bce33576b315ececbb6406837bf51f5)

/-- The curve over a field of 384 bits. -/
def curve384 : Curve where
  name := [0x2b, 0x81, 0x04, 0x00, 0x22]
  prime :=
    0xfffffffffffffffffffffffffffffffffffffffffffffffffffffffffffffffeffffffff0000000000000000ffffffff
  order :=
    0xffffffffffffffffffffffffffffffffffffffffffffffffc7634d81f4372ddf581a0db248b0a77aecec196accc52973
  shift :=
    0xb3312fa7e23ee7e4988e056be3f82d19181d9c6efe8141120314088f5013875ac656398d8a2ed19d2a85c8edd3ec2aef
  start :=
    (0xaa87ca22be8b05378eb1c71ef320ad746e1d3b628ba79b9859f741e082542a385502f25dbf55296c3a545e3872760ab7,
     0x3617de4a96262c6f5d9e98bf9292dc29f8f41dbd289a147ce9da3113b5f0b8c00a60b1ce1d7e819d7a431d7c90ea0e5f)

/-- The curve over a field of 521 bits. -/
def curve521 : Curve where
  name := [0x2b, 0x81, 0x04, 0x00, 0x23]
  prime :=
    0x1ffffffffffffffffffffffffffffffffffffffffffffffffffffffffffffffffffffffffffffffffffffffffffffffffffffffffffffffffffffffffffffffffff
  order :=
    0x1fffffffffffffffffffffffffffffffffffffffffffffffffffffffffffffffffa51868783bf2f966b7fcc0148f709a5d03bb5c9b8899c47aebb6fb71e91386409
  shift :=
    0x51953eb9618e1c9a1f929a21a0b68540eea2da725b99b315f3b8b489918ef109e156193951ec7e937b1652c0bd3bb1bf073573df883d2c34f1ef451fd46b503f00
  start :=
    (0xc6858e06b70404e9cd9e3ecb662395b4429c648139053fb521f828af606b4d3dbaa14b5e77efe75928fe1dc127a2ffa8de3348b3c1856a429bf97e7e31c2e5bd66,
     0x11839296a789a3bc0045c8a5fb42c7d1bd998f54449579b446817afbd17273e662c97ee72995ef42640c550b9013fad0761353c7086a272c24088be94769fd16650)

def all : List Curve := [curve224, curve256, curve384, curve521]

def named? (name : Text) : Option Curve := all.find? fun c => c.name == name

/-! ## the field -/

/-- The bits of a number, lowest first; `fuel` bounds them. -/
def bitsFrom (fuel n : Nat) : List Bool :=
  match fuel with
  | 0 => []
  | fuel + 1 => if n = 0 then [] else (n % 2 = 1) :: bitsFrom fuel (n / 2)

/-- The bits of a number, lowest first. -/
def bits (n : Nat) : List Bool := bitsFrom (n.log2 + 1) n

/-- The difference of two field elements. -/
def sub (c : Curve) (a b : Nat) : Nat := (a + c.prime - b % c.prime) % c.prime

/-- A power of a field element, from the highest bit of the exponent on. -/
def power (c : Curve) (base exponent : Nat) : Nat :=
  (bits exponent).reverse.foldl (fun p bit => p * p % c.prime * (if bit then base else 1) % c.prime) 1

/-- The quotient of two field elements. -/
def quotient (c : Curve) (a b : Nat) : Nat := a * c.power b (c.prime - 2) % c.prime

/-! ## points -/

def holds (c : Curve) (p : Nat × Nat) : Bool :=
  let (x, y) := p
  x < c.prime && y < c.prime && y * y % c.prime = c.sub (x * x % c.prime * x + c.shift) (3 * x)

/-- The sum of two points; nothing stands for the neutral one. -/
def add (c : Curve) : Option (Nat × Nat) → Option (Nat × Nat) → Option (Nat × Nat)
  | none, q => q
  | p, none => p
  | some (x, y), some (u, v) =>
    if x = u && (y + v) % c.prime = 0 then none
    else
      let slope :=
        if x = u then c.quotient (c.sub (3 * x * x) 3) (2 * y) else c.quotient (c.sub v y) (c.sub u x)
      let s := c.sub (slope * slope) (x + u)
      some (s, c.sub (slope * c.sub x s) y)

/-- The start point added as often as a number says. -/
def multiple (c : Curve) (n : Nat) : Option (Nat × Nat) :=
  (bits n).reverse.foldl (fun p bit =>
    let twice := c.add p p
    if bit then c.add twice (some c.start) else twice) none

end Curve

end CastAudit
