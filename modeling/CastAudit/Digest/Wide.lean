import CastAudit.Digest

/-!
# SHA-512

The digest with words of sixty-four bits, by which a private key is spread. It is built like the narrow one,
with eighty rounds to a block of sixteen words. Its constants are not listed but computed: they are the first
sixty-four bits behind the point of roots of the first primes.
-/

namespace CastAudit.Digest.Wide

/-! ## constants -/

/-- The greatest `r` with `r ^ k ≤ n` that has `seen` in front of its last `places` bits. -/
def rootFrom (k n : Nat) (seen : Nat) : (places : Nat) → Nat
  | 0 => seen
  | places + 1 =>
    let next := seen + Nat.pow 2 places
    rootFrom k n (if Nat.pow next k ≤ n then next else seen) places

/-- The first sixty-four bits behind the point of the `k`-th root of a number below `2 ^ 16`. -/
def rootBits (k n : Nat) : UInt64 := (rootFrom k (n * Nat.pow 2 (64 * k)) 0 80).toUInt64

def isPrime (n : Nat) : Bool := 2 ≤ n && (List.range n).all fun d => d < 2 || n % d ≠ 0

/-- The first eighty primes. -/
def primes : List Nat := (List.range 410).filter isPrime

/-- The constants of the rounds: cube roots. -/
def constants : List UInt64 := primes.map (rootBits 3)

/-- The state before the first block: square roots. -/
def initial : List UInt64 := (primes.take 8).map (rootBits 2)

/-! ## rounds -/

/-- A word turned right by `n` bits. -/
def turn (x n : UInt64) : UInt64 := (x >>> n) ||| (x <<< (64 - n))

/-- The next word of the schedule, from the sixteen before it, the latest first. -/
def nextWord (before : List UInt64) : UInt64 :=
  let w (k : Nat) : UInt64 := before.getD (k - 1) 0
  let x := w 15
  let y := w 2
  w 16 + (turn x 1 ^^^ turn x 8 ^^^ (x >>> 7)) + w 7 + (turn y 19 ^^^ turn y 61 ^^^ (y >>> 6))

/-- The eighty words of a block of sixteen. -/
def schedule (block : List UInt64) : List UInt64 :=
  ((List.range 64).foldl (fun words _ => nextWord words :: words) block.reverse).reverse

/-- One round with the sum of its constant and its word. -/
def round : List UInt64 → UInt64 → List UInt64
  | [a, b, c, d, e, f, g, h], k =>
    let t := h + (turn e 14 ^^^ turn e 18 ^^^ turn e 41) + ((e &&& f) ^^^ ((e ^^^ 0xffffffffffffffff) &&& g)) + k
    let u := (turn a 28 ^^^ turn a 34 ^^^ turn a 39) + ((a &&& b) ^^^ (a &&& c) ^^^ (b &&& c))
    [t + u, a, b, c, d + t, e, f, g]
  | state, _ => state

/-- Mixes a block into the state. -/
def mix (state block : List UInt64) : List UInt64 :=
  List.zipWith (· + ·) state ((List.zipWith (· + ·) constants (schedule block)).foldl round state)

/-! ## messages -/

/-- The pieces of `size` items each, of as many as `count` says. -/
def pieces {α : Type} (size : Nat) : (count : Nat) → List α → List (List α)
  | 0, _ => []
  | count + 1, xs => xs.take size :: pieces size count (xs.drop size)

/-- The bytes after a message of a length: a one bit, zeros, and the length in bits. -/
def padding (length : Nat) : Text :=
  0x80 :: List.replicate ((239 - length % 128) % 128) 0 ++ bigEndian 16 (length * 8)

/-- The word of eight bytes, highest first. -/
def wordOf (bytes : Text) : UInt64 := bytes.foldl (fun w b => (w <<< 8) ||| b.toUInt64) 0

def sha512 (message : Text) : Text :=
  let whole := message ++ padding message.length
  let words := (pieces 8 (whole.length / 8) whole).map wordOf
  ((pieces 16 (words.length / 16) words).foldl mix initial).flatMap fun w => bigEndian 8 w.toNat

end CastAudit.Digest.Wide
