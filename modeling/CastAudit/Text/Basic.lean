/-!
# Texts as byte lists

Logs, paths, names and reports are byte strings that nobody promises to be valid UTF-8, so a text is
the list of its bytes and every reading of it as characters is a function on that list.

* `ofString` — the bytes of a literal, also inserted as a coercion;
* `cut?`, `splitOn` — the first occurrence of a separator, and the pieces between all of them;
* `dropEnd`, `chopSuffix` — trimming at the end by a byte class and by one fixed text.

All functions run in constant stack space, since a line may have a million bytes.
-/

namespace CastAudit

/-- A text is the list of its bytes. -/
abbrev Text := List UInt8

namespace Text

/-- The UTF-8 bytes of a string. -/
def ofString (s : String) : Text := s.toList.flatMap String.utf8EncodeChar

instance : Coe String Text := ⟨ofString⟩

/-! ## single bytes -/

/-- Line feed. -/
abbrev lf : UInt8 := 0x0a
/-- Carriage return. -/
abbrev cr : UInt8 := 0x0d
abbrev tab : UInt8 := 0x09
abbrev space : UInt8 := 0x20
abbrev quote : UInt8 := 0x22
abbrev backslash : UInt8 := 0x5c
abbrev comma : UInt8 := 0x2c
abbrev slash : UInt8 := 0x2f
/-- Full stop. -/
abbrev dot : UInt8 := 0x2e
abbrev dash : UInt8 := 0x2d

def isDigit (b : UInt8) : Bool := 0x30 ≤ b && b ≤ 0x39

def isLetter (b : UInt8) : Bool := (0x41 ≤ b && b ≤ 0x5a) || (0x61 ≤ b && b ≤ 0x7a)

/-- A hexadecimal digit of either case. -/
def isHexDigit (b : UInt8) : Bool := isDigit b || (0x41 ≤ b && b ≤ 0x46) || (0x61 ≤ b && b ≤ 0x66)

/-- The value of a hexadecimal digit; other bytes count as zero. -/
def hexValue (b : UInt8) : Nat :=
  if isDigit b then b.toNat - 0x30
  else if 0x41 ≤ b && b ≤ 0x46 then b.toNat - 0x37
  else if 0x61 ≤ b && b ≤ 0x66 then b.toNat - 0x57
  else 0

/-- Upper-case ASCII letters become lower case. -/
def lowerByte (b : UInt8) : UInt8 := if 0x41 ≤ b && b ≤ 0x5a then b + 0x20 else b

/-! ## searching and splitting -/

def startsWith (s p : Text) : Bool := p.isPrefixOf s

/-- Drops `p` from the front of `s` when `s` starts with it. -/
def chopPrefix (s p : Text) : Text := if startsWith s p then s.drop p.length else s

/-- The text around the first occurrence of `sep`; `seen` holds the bytes passed so far, last first. -/
def cutFrom (sep : Text) : Text → Text → Option (Text × Text)
  | seen, [] => if sep.isEmpty then some (seen.reverse, []) else none
  | seen, b :: rest =>
    if startsWith (b :: rest) sep then some (seen.reverse, (b :: rest).drop sep.length)
    else cutFrom sep (b :: seen) rest

/-- The text before and after the first occurrence of `sep`. -/
def cut? (s sep : Text) : Option (Text × Text) := cutFrom sep [] s

def holds (s sep : Text) : Bool := (cut? s sep).isSome

/-- The loop of `splitOn`: `skip` bytes of a separator are still to be passed, `piece` is the piece
under way and `done` the finished ones, both last first. -/
def splitFrom (sep : Text) : Nat → Text → List Text → Text → List Text
  | _, piece, done, [] => (piece.reverse :: done).reverse
  | skip + 1, piece, done, _ :: rest => splitFrom sep skip piece done rest
  | 0, piece, done, b :: rest =>
    if startsWith (b :: rest) sep then splitFrom sep (sep.length - 1) [] (piece.reverse :: done) rest
    else splitFrom sep 0 (b :: piece) done rest

/-- The pieces of `s` between the occurrences of a non-empty `sep`, read from the left. A text
without `sep` is one piece. -/
def splitOn (s sep : Text) : List Text := splitFrom sep 0 [] [] s

/-- The number of bytes of `s` equal to `b`. -/
def countByte (s : Text) (b : UInt8) : Nat := s.foldl (fun n c => if c = b then n + 1 else n) 0

/-! ## trimming -/

/-- Drops the longest run of bytes of a class at the end. -/
def dropEnd (s : Text) (p : UInt8 → Bool) : Text := (s.reverse.dropWhile p).reverse

/-- Drops the longest runs of bytes of a class at both ends. -/
def dropAround (s : Text) (p : UInt8 → Bool) : Text := dropEnd (s.dropWhile p) p

def endsWith (s p : Text) : Bool := startsWith s.reverse p.reverse

/-- Drops `p` from the end of `s` when `s` ends with it. -/
def chopSuffix (s p : Text) : Text := if endsWith s p then s.take (s.length - p.length) else s

/-- Space, tab, carriage return and line feed. -/
def isLineBlank (b : UInt8) : Bool := b = space || b = tab || b = cr || b = lf

/-- Carriage return and line feed. -/
def isLineEnd (b : UInt8) : Bool := b = cr || b = lf

/-! ## joining -/

/-- The texts with `sep` between neighbours. -/
def join (sep : Text) (parts : List Text) : Text := (parts.intersperse sep).flatten

def repeated (s : Text) (n : Nat) : Text := (List.replicate n s).flatten

/-- Every line followed by a line feed. -/
def unlines (lines : List Text) : Text := lines.flatMap (· ++ [lf])

/-- Lower-case ASCII letters. -/
def lower (s : Text) : Text := s.map lowerByte

/-- Byte order, the order of all sorted lists. -/
def before (a b : Text) : Bool := decide (a < b)

end Text

end CastAudit
