import CastAudit.Text.Basic

/-!
# Characters of a byte text

`pieces` reads a text from the left into well-formed UTF-8 characters and stray bytes, and every
other character-wise function of the library works on that list: `valid` asks for no stray byte,
`repair` puts one replacement character for each run of stray bytes, `dropPieces` drops columns.
The well-formed ranges leave out overlong forms, surrogates and codes above U+10FFFF.
-/

namespace CastAudit.Text

/-- What one step of reading a text finds: a well-formed character with its code and its bytes, or a
byte that starts no well-formed character. -/
inductive Piece where
  | scalar (code : Nat) (bytes : Text)
  | stray (byte : UInt8)
deriving Repr, BEq, DecidableEq

namespace Piece

def bytes : Piece → Text
  | scalar _ bs => bs
  | stray b => [b]

/-- The character code; a stray byte reads as the replacement character U+FFFD. -/
def code : Piece → Nat
  | scalar c _ => c
  | stray _ => 0xfffd

def isStray : Piece → Bool
  | scalar _ _ => false
  | stray _ => true

end Piece

/-! ## well-formed sequences -/

/-- A continuation byte. -/
def isTail (b : UInt8) : Bool := 0x80 ≤ b && b ≤ 0xbf

/-- The six low bits of a continuation byte. -/
def tailBits (b : UInt8) : Nat := b.toNat % 0x40

/-- A well-formed two-byte character. -/
def isPair (a b : UInt8) : Bool := 0xc2 ≤ a && a ≤ 0xdf && isTail b

/-- A well-formed three-byte character. -/
def isTriple (a b c : UInt8) : Bool :=
  0xe0 ≤ a && a ≤ 0xef && isTail b && isTail c && !(a = 0xe0 && b < 0xa0) && !(a = 0xed && 0x9f < b)

/-- A well-formed four-byte character. -/
def isQuad (a b c d : UInt8) : Bool :=
  0xf0 ≤ a && a ≤ 0xf4 && isTail b && isTail c && isTail d && !(a = 0xf0 && b < 0x90) &&
    !(a = 0xf4 && 0x8f < b)

/-- The code of a two-byte character. -/
def pairCode (a b : UInt8) : Nat := (a.toNat % 0x20) * 0x40 + tailBits b

/-- The code of a three-byte character. -/
def tripleCode (a b c : UInt8) : Nat := (a.toNat % 0x10) * 0x1000 + tailBits b * 0x40 + tailBits c

/-- The code of a four-byte character. -/
def quadCode (a b c d : UInt8) : Nat :=
  (a.toNat % 0x08) * 0x40000 + tailBits b * 0x1000 + tailBits c * 0x40 + tailBits d

/-- The loop of `pieces`, with the pieces found so far, last first. -/
def piecesFrom : List Piece → Text → List Piece
  | found, [] => found.reverse
  | found, a :: r =>
    if a < 0x80 then piecesFrom (.scalar a.toNat [a] :: found) r
    else match r with
      | [] => piecesFrom (.stray a :: found) []
      | b :: r₁ =>
        if isPair a b then piecesFrom (.scalar (pairCode a b) [a, b] :: found) r₁
        else match r₁ with
          | [] => piecesFrom (.stray a :: found) [b]
          | c :: r₂ =>
            if isTriple a b c then piecesFrom (.scalar (tripleCode a b c) [a, b, c] :: found) r₂
            else match r₂ with
              | [] => piecesFrom (.stray a :: found) [b, c]
              | d :: r₃ =>
                if isQuad a b c d then piecesFrom (.scalar (quadCode a b c d) [a, b, c, d] :: found) r₃
                -- only the first byte is stray: the next ones may start a character
                else piecesFrom (.stray a :: found) (b :: c :: d :: r₃)

/-- The characters and stray bytes of a text, from the left. -/
def pieces (s : Text) : List Piece := piecesFrom [] s

def ofPieces (ps : List Piece) : Text := ps.flatMap Piece.bytes

/-- A text is valid when it holds no stray byte. -/
def valid (s : Text) : Bool := !(pieces s).any Piece.isStray

/-- The number of characters, stray bytes counted one each. -/
def charCount (s : Text) : Nat := (pieces s).length

/-- The text without its first `n` characters. -/
def dropPieces (s : Text) (n : Nat) : Text := ofPieces ((pieces s).drop n)

/-- The bytes of the replacement character U+FFFD. -/
abbrev replacement : Text := [0xef, 0xbf, 0xbd]

/-- One step of `repair`: the bytes written so far, last first, and whether the last piece was a
stray byte. -/
def repairStep (state : Text × Bool) (p : Piece) : Text × Bool :=
  match p with
  | .scalar _ bs => (bs.reverse ++ state.1, false)
  | .stray _ => if state.2 then state else (replacement.reverse ++ state.1, true)

/-- Every run of stray bytes becomes one replacement character. -/
def repair (s : Text) : Text := ((pieces s).foldl repairStep ([], false)).1.reverse

/-- The UTF-8 bytes of a code point; codes that no character has give the replacement character. -/
def encode (code : Nat) : Text :=
  if code < 0x80 then [code.toUInt8]
  else if code < 0x800 then [(0xc0 + code / 0x40).toUInt8, (0x80 + code % 0x40).toUInt8]
  else if 0xd800 ≤ code ∧ code ≤ 0xdfff then replacement
  else if code < 0x10000 then
    [(0xe0 + code / 0x1000).toUInt8, (0x80 + code / 0x40 % 0x40).toUInt8, (0x80 + code % 0x40).toUInt8]
  else if code < 0x110000 then
    [(0xf0 + code / 0x40000).toUInt8, (0x80 + code / 0x1000 % 0x40).toUInt8,
      (0x80 + code / 0x40 % 0x40).toUInt8, (0x80 + code % 0x40).toUInt8]
  else replacement

end CastAudit.Text
