import CastAudit.Character.Category
import CastAudit.Text.Utf8

/-!
# Quoted texts

How messages show a name or an argument: in double quotes, printable characters as they are, the
usual one-letter escapes, `\x` with two digits for other ASCII controls and stray bytes, `\u` with
four and `\U` with eight digits for everything else.
-/

namespace CastAudit.Text

/-- The hexadecimal digit of a value below sixteen. -/
def hexDigit (n : Nat) : UInt8 := if n < 10 then (0x30 + n).toUInt8 else (0x57 + n).toUInt8

/-- The last `width` hexadecimal digits of `n`, in lower case. -/
def hex (width n : Nat) : Text :=
  (List.range width).map fun i => hexDigit (n / Nat.pow 16 (width - 1 - i) % 16)

def hexBytes (s : Text) : Text := s.flatMap fun b => [hexDigit (b.toNat / 16), hexDigit (b.toNat % 16)]

/-- The one-letter escape of a control character. -/
def shortEscape? (c : Nat) : Option UInt8 :=
  if c = 0x07 then some 0x61
  else if c = 0x08 then some 0x62
  else if c = 0x0c then some 0x66
  else if c = 0x0a then some 0x6e
  else if c = 0x0d then some 0x72
  else if c = 0x09 then some 0x74
  else if c = 0x0b then some 0x76
  else none

/-- A character inside quotes of the kind `mark`. -/
def quoteCode (mark : Nat) (c : Nat) (bytes : Text) : Text :=
  if c = mark ∨ c = 0x5c then backslash :: bytes
  else if (0x20 ≤ c && c ≤ 0x7e) || Character.isPrintable c then bytes
  else match shortEscape? c with
    | some e => [backslash, e]
    | none =>
      if c < 0x20 ∨ c = 0x7f then [backslash, 0x78] ++ hex 2 c
      else if c < 0x10000 then [backslash, 0x75] ++ hex 4 c
      else [backslash, 0x55] ++ hex 8 c

/-- A piece inside double quotes. -/
def quotePiece : Piece → Text
  | .scalar c bs => quoteCode 0x22 c bs
  | .stray b => [backslash, 0x78] ++ hex 2 b.toNat

def quoted (s : Text) : Text := quote :: (pieces s).flatMap quotePiece ++ [quote]

/-- A byte read as a character, in single quotes. -/
def quotedByte (b : UInt8) : Text := 0x27 :: quoteCode 0x27 b.toNat (encode b.toNat) ++ [0x27]

end CastAudit.Text
