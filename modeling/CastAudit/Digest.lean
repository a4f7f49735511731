import CastAudit.Text.Quoted

/-!
# SHA-256

The digest that cache keys are made of, over bytes. The message is padded to whole blocks, each block
is spread to sixty-four words and mixed into eight words of state.
-/

namespace CastAudit.Digest

/-- The eight words of state. -/
structure State where
  a : UInt32
  b : UInt32
  c : UInt32
  d : UInt32
  e : UInt32
  f : UInt32
  g : UInt32
  h : UInt32
deriving Repr, BEq, DecidableEq, Inhabited

/-- The state before the first block: the square roots of the first eight primes. -/
def initial : State :=
  ⟨0x6a09e667, 0xbb67ae85, 0x3c6ef372, 0xa54ff53a, 0x510e527f, 0x9b05688c, 0x1f83d9ab, 0x5be0cd19⟩

/-- The constants of the rounds: the cube roots of the first sixty-four primes. -/
def constants : List UInt32 :=
  [0x428a2f98, 0x71374491, 0xb5c0fbcf, 0xe9b5dba5, 0x3956c25b, 0x59f111f1, 0x923f82a4, 0xab1c5ed5,
   0xd807aa98, 0x12835b01, 0x243185be, 0x550c7dc3, 0x72be5d74, 0x80deb1fe, 0x9bdc06a7, 0xc19bf174,
   0xe49b69c1, 0xefbe4786, 0x0fc19dc6, 0x240ca1cc, 0x2de92c6f, 0x4a7484aa, 0x5cb0a9dc, 0x76f988da,
   0x983e5152, 0xa831c66d, 0xb00327c8, 0xbf597fc7, 0xc6e00bf3, 0xd5a79147, 0x06ca6351, 0x14292967,
   0x27b70a85, 0x2e1b2138, 0x4d2c6dfc, 0x53380d13, 0x650a7354, 0x766a0abb, 0x81c2c92e, 0x92722c85,
   0xa2bfe8a1, 0xa81a664b, 0xc24b8b70, 0xc76c51a3, 0xd192e819, 0xd6990624, 0xf40e3585, 0x106aa070,
   0x19a4c116, 0x1e376c08, 0x2748774c, 0x34b0bcb5, 0x391c0cb3, 0x4ed8aa4a, 0x5b9cca4f, 0x682e6ff3,
   0x748f82ee, 0x78a5636f, 0x84c87814, 0x8cc70208, 0x90befffa, 0xa4506ceb, 0xbef9a3f7, 0xc67178f2]

/-- A word turned right by `n` bits. -/
def turn (x : UInt32) (n : UInt32) : UInt32 := (x >>> n) ||| (x <<< (32 - n))

/-- The next word of the schedule, from the sixteen before position `i`. -/
def nextWord (words : Array UInt32) (i : Nat) : UInt32 :=
  let w (k : Nat) : UInt32 := words.getD k 0
  let x := w (i - 15)
  let y := w (i - 2)
  let s₀ := turn x 7 ^^^ turn x 18 ^^^ (x >>> 3)
  let s₁ := turn y 17 ^^^ turn y 19 ^^^ (y >>> 10)
  w (i - 16) + s₀ + w (i - 7) + s₁

/-- The sixty-four words of a block of sixteen. -/
def schedule (block : Array UInt32) : Array UInt32 :=
  (List.range 48).foldl (fun words i => words.push (nextWord words (i + 16))) block

/-- One round. -/
def round (s : State) (k w : UInt32) : State :=
  let s₁ := turn s.e 6 ^^^ turn s.e 11 ^^^ turn s.e 25
  let choice := (s.e &&& s.f) ^^^ ((s.e ^^^ 0xffffffff) &&& s.g)
  let t₁ := s.h + s₁ + choice + k + w
  let s₀ := turn s.a 2 ^^^ turn s.a 13 ^^^ turn s.a 22
  let majority := (s.a &&& s.b) ^^^ (s.a &&& s.c) ^^^ (s.b &&& s.c)
  ⟨t₁ + (s₀ + majority), s.a, s.b, s.c, s.d + t₁, s.e, s.f, s.g⟩

/-- Mixes a block of sixteen words into the state. -/
def mix (s : State) (block : Array UInt32) : State :=
  let t := (constants.zip (schedule block).toList).foldl (fun s p => round s p.1 p.2) s
  ⟨s.a + t.a, s.b + t.b, s.c + t.c, s.d + t.d, s.e + t.e, s.f + t.f, s.g + t.g, s.h + t.h⟩

/-- The state of a message under way: the words of the block so far, the word under way and how many
of its bytes are there. -/
structure Feed where
  state : State := initial
  block : Array UInt32 := #[]
  word : UInt32 := 0
  bytes : Nat := 0
deriving Inhabited

/-- One byte of a message. -/
def feed (f : Feed) (b : UInt8) : Feed :=
  let word := (f.word <<< 8) ||| b.toUInt32
  if f.bytes < 3 then { f with word, bytes := f.bytes + 1 }
  else
    let block := f.block.push word
    if block.size < 16 then { f with block, word := 0, bytes := 0 }
    else { state := mix f.state block }

/-- A number in big-endian bytes. -/
def bigEndian (width n : Nat) : Text :=
  (List.range width).map fun i => (n / Nat.pow 256 (width - 1 - i) % 256).toUInt8

/-- The bytes after a message of a length: a one bit, zeros, and the length in bits. -/
def padding (length : Nat) : Text :=
  0x80 :: List.replicate ((119 - length % 64) % 64) 0 ++ bigEndian 8 (length * 8)

def sha256 (message : Text) : Text :=
  let s := ((padding message.length).foldl feed (message.foldl feed {})).state
  [s.a, s.b, s.c, s.d, s.e, s.f, s.g, s.h].flatMap fun w => bigEndian 4 w.toNat

end CastAudit.Digest
