import CastAudit.Text.Utf8

/-!
# White space

The characters with the Unicode property White_Space, and trimming by them. Every extracted field,
listing line and table cell is trimmed by `trim`.
-/

namespace CastAudit.Text

/-- The code points with the property White_Space. -/
def isBlankCode (c : Nat) : Bool :=
  (9 ≤ c && c ≤ 13) || c = 0x20 || c = 0x85 || c = 0xa0 || c = 0x1680 || (0x2000 ≤ c && c ≤ 0x200a) ||
    c = 0x2028 || c = 0x2029 || c = 0x202f || c = 0x205f || c = 0x3000

/-- A white-space character; a stray byte is none. -/
def Piece.isBlank : Piece → Bool
  | .scalar c _ => isBlankCode c
  | .stray _ => false

/-- The text without leading white space. -/
def trimLeft (s : Text) : Text := ofPieces ((pieces s).dropWhile Piece.isBlank)

/-- The text without trailing white space. -/
def trimRight (s : Text) : Text := ofPieces ((pieces s).reverse.dropWhile Piece.isBlank).reverse

/-- The text without leading and trailing white space. -/
def trim (s : Text) : Text :=
  ofPieces (((pieces s).dropWhile Piece.isBlank).reverse.dropWhile Piece.isBlank).reverse

/-- A text of white space only. -/
def isAllBlank (s : Text) : Bool := (pieces s).all Piece.isBlank

/-- The text starts with a white-space character. -/
def startsBlank (s : Text) : Bool := ((pieces (s.take 4)).head?.map Piece.isBlank).getD false

end CastAudit.Text
