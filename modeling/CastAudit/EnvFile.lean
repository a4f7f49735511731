import CastAudit.Text.Blank

/-!
# Environment files

A file of `NAME=value` lines that fills up the environment. Values may stand in single or double quotes
and then run over several lines; outside single quotes `$NAME` and `${NAME}` stand for variables set
earlier in the file. A file with an error anywhere gives no variables at all.
-/

namespace CastAudit.EnvFile

/-- The variables of a file, the last one first. -/
abbrev Variables := List (Text × Text)

/-! ## blanks and names -/

/-- A blank that does not end a line. -/
def isInlineBlank (code : Nat) : Bool :=
  code = 0x09 || (0x0b ≤ code && code ≤ 0x0d) || code = 0x20 || code = 0x85 || code = 0xa0

/-- The text without the blanks at its front, line ends excepted. -/
def dropInline : Text → Text
  | 0xc2 :: b :: rest => if b = 0x85 || b = 0xa0 then dropInline rest else 0xc2 :: b :: rest
  | b :: rest => if b < 0x80 && isInlineBlank b.toNat then dropInline rest else b :: rest
  | [] => []

/-- A letter or number among the first 256 characters. -/
def isWordCode (c : Nat) : Bool :=
  (0x30 ≤ c && c ≤ 0x39) || (0x41 ≤ c && c ≤ 0x5a) || (0x61 ≤ c && c ≤ 0x7a) || c = 0xaa || c = 0xb2 || c = 0xb3 ||
    c = 0xb5 || c = 0xb9 || c = 0xba || (0xbc ≤ c && c ≤ 0xbe) || (0xc0 ≤ c && c ≠ 0xd7 && c ≠ 0xf7)

/-- A byte that may stand in a name or among the blanks around it. -/
def isNameByte (b : UInt8) : Bool :=
  isInlineBlank b.toNat || isWordCode b.toNat || b = 0x5f || b = Text.dot

/-- The text after a leading `export` and the blanks behind it. -/
def dropExport (s : Text) : Text :=
  let s := dropInline s
  let rest := Text.chopPrefix s "export"
  if rest.length < s.length && (dropInline rest).length < rest.length then dropInline rest else s

/-- The name at the front of a statement and the text after its `=` or `:`. A last statement without
either is a value without a name. -/
def name? (s : Text) : Option (Text × Text) :=
  let s := dropExport s
  match s.dropWhile isNameByte with
  | [] => if s.isEmpty then none else some ([], s)
  | b :: rest =>
    if b = 0x3d || b = 0x3a then some (Text.trimRight (s.takeWhile isNameByte), dropInline rest) else none

/-! ## values -/

/-- A byte of the name of a variable that is referred to. -/
def isReferenceByte (b : UInt8) : Bool := Text.isDigit b || (0x41 ≤ b && b ≤ 0x5a) || b = 0x5f

/-- What a reference stands for, given the text behind its `$`, and the number of bytes of that text that
belong to it. A `$` without a name stands for itself with its brackets. -/
def reference (known : Variables) (s : Text) : Text × Nat :=
  let round := if s.head? == some 0x28 then 1 else 0
  let curly := if (s.drop round).head? == some 0x7b then 1 else 0
  let name := (s.drop (round + curly)).takeWhile isReferenceByte
  let front := round + curly + name.length
  let size := if (s.drop front).head? == some 0x7d then front + 1 else front
  (if name.isEmpty then 0x24 :: s.take size else (known.lookup name).getD [], size)

/-- The text with its references replaced, after `skip` bytes that are dealt with. A reference behind a
backslash loses that and is kept. -/
def expandFrom (known : Variables) : Nat → Text → Text
  | _, [] => []
  | skip + 1, _ :: rest => expandFrom known skip rest
  | 0, b :: rest =>
    if b = 0x24 then
      let (value, size) := reference known rest
      value ++ expandFrom known size rest
    else if b = Text.backslash && rest.head? == some 0x24 then
      let size := 1 + (reference [] rest.tail).2
      rest.take size ++ expandFrom known size rest
    else b :: expandFrom known 0 rest

/-- The text with its references replaced. -/
def expand (known : Variables) (s : Text) : Text := expandFrom known 0 s

/-- Replaces `\n` and `\r` by the line ends that they stand for. -/
def lineEscapes : Text → Text
  | 0x5c :: b :: rest =>
    if b = 0x6e then Text.lf :: lineEscapes rest
    else if b = 0x72 then Text.cr :: lineEscapes rest
    else 0x5c :: b :: lineEscapes rest
  | b :: rest => b :: lineEscapes rest
  | [] => []

/-- Drops every backslash but those before a `$`. -/
def dropBackslashes : Text → Text
  | 0x5c :: b :: rest => if b = 0x24 then 0x5c :: b :: dropBackslashes rest else b :: dropBackslashes rest
  | b :: rest => b :: dropBackslashes rest
  | [] => []

/-- The text up to the closing quote, last first, and the rest after it. A quote behind a backslash does
not close. -/
def closing? (mark previous : UInt8) (seen : Text) : Text → Option (Text × Text)
  | [] => none
  | b :: rest =>
    if b = mark && previous ≠ Text.backslash then some (seen, rest) else closing? mark b (b :: seen) rest

/-- A value in quotes, given the text behind the opening one. -/
def quoted? (known : Variables) (mark : UInt8) (s : Text) : Option (Text × Text) := do
  let (seen, rest) ← closing? mark mark [] s
  let value := Text.dropAround seen.reverse (· = mark)
  if mark = Text.quote then some (expand known (dropBackslashes (lineEscapes value)), rest)
  else some (value, rest)

/-- The pieces before a comment, last first, given those of the line last first: the last `#` with a
blank before it starts the comment. -/
def beforeComment? : List Text.Piece → Option (List Text.Piece)
  | p :: q :: rest =>
    if p.code = 0x23 && isInlineBlank q.code then some (q :: rest) else beforeComment? (q :: rest)
  | _ => none

/-- A value without quotes runs to the end of its line. -/
def plain (known : Variables) (s : Text) : Text × Text :=
  let line := s.takeWhile fun b => !Text.isLineEnd b
  let pieces := (Text.pieces line).reverse
  let blank (p : Text.Piece) : Bool := isInlineBlank p.code
  let kept := (((beforeComment? pieces).getD pieces).dropWhile blank).reverse.dropWhile blank
  (expand known (kept.flatMap fun p => Text.encode p.code), s.drop line.length)

/-- The value at the front of a text and the rest after it. -/
def value? (known : Variables) : Text → Option (Text × Text)
  | [] => some ([], [])
  | b :: rest =>
    if b = Text.quote || b = 0x27 then quoted? known b rest else some (plain known (b :: rest))

/-! ## files -/

/-- The variables of a text after those already set. Every statement takes at least one byte, so as much
fuel as there are bytes is enough. -/
def parseFrom (fuel : Nat) (known : Variables) (s : Text) : Option Variables :=
  match fuel with
  | 0 => some known
  | fuel + 1 =>
    match Text.trimLeft s with
    | [] => some known
    | b :: rest =>
      if b = 0x23 then parseFrom fuel known (rest.dropWhile (· ≠ Text.lf))
      else do
        let (name, rest) ← name? (b :: rest)
        let (value, rest) ← value? known rest
        parseFrom fuel ((name, value) :: known) rest

def parse? (content : Text) : Option Variables :=
  let content := Text.join [Text.lf] (Text.splitOn content [Text.cr, Text.lf])
  parseFrom (content.length + 1) [] content

end CastAudit.EnvFile
