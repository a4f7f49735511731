import CastAudit.Binary
import CastAudit.Text.Utf8
import CastAudit.Text.Decimal
import CastAudit.Toml.Basic
import CastAudit.Toml.Date

/-!
# Reading TOML

A reader of TOML texts. `legible` first refuses control characters, lone carriage returns and stray bytes
anywhere; the reader then takes statements line by line.
-/

namespace CastAudit.Toml

def isBlank (b : UInt8) : Bool := b = Text.space || b = Text.tab

def skipBlanks (s : Text) : Text := s.dropWhile isBlank

/-- The text after a comment, from the end of its line on. -/
def skipComment (s : Text) : Text := s.dropWhile fun b => !Text.isLineEnd b

/-- A byte of a key without quotes. -/
def isKeyByte (b : UInt8) : Bool := Text.isLetter b || Text.isDigit b || b = 0x5f || b = Text.dash

/-! ## strings -/

/-- The character of an escape with its code, unless no character has it. -/
def character? (digits : Text) : Option Text :=
  let code := digits.foldl (fun n b => n * 16 + Text.hexValue b) 0
  if digits.all Text.isHexDigit && code < 0x110000 && !(0xd800 ≤ code && code ≤ 0xdfff) then
    some (Text.encode code)
  else none

/-- The byte of a one-letter escape. -/
def shortEscape? (b : UInt8) : Option UInt8 :=
  if b = 0x22 || b = 0x5c then some b
  else if b = 0x62 then some 0x08
  else if b = 0x74 then some 0x09
  else if b = 0x6e then some 0x0a
  else if b = 0x66 then some 0x0c
  else if b = 0x72 then some 0x0d
  else none

/-- The text with its escapes replaced, `seen` last first. -/
def unescapeFrom (seen : Text) : Text → Option Text
  | [] => some seen.reverse
  | 0x5c :: 0x75 :: a :: b :: c :: d :: rest =>
    match character? [a, b, c, d] with
    | some bytes => unescapeFrom (bytes.reverse ++ seen) rest
    | none => none
  | 0x5c :: 0x55 :: a :: b :: c :: d :: e :: f :: g :: h :: rest =>
    match character? [a, b, c, d, e, f, g, h] with
    | some bytes => unescapeFrom (bytes.reverse ++ seen) rest
    | none => none
  | 0x5c :: b :: rest =>
    match shortEscape? b with
    | some x => unescapeFrom (x :: seen) rest
    | none => none
  | b :: rest => if b = Text.backslash then none else unescapeFrom (b :: seen) rest

/-- The text with its escapes replaced. -/
def unescape? (s : Text) : Option Text := unescapeFrom [] s

/-- The rest of a one-line string behind its opening quote, escapes as they stand, `seen` last first. -/
def lineStringFrom (mark : UInt8) (escapes : Bool) (seen : Text) : Text → Option (Text × Text)
  | [] => none
  | b :: rest =>
    if Text.isLineEnd b then none
    else if b = mark then some (seen.reverse, rest)
    else if escapes && b = Text.backslash then
      match rest with
      | c :: rest => if Text.isLineEnd c then none else lineStringFrom mark escapes (c :: b :: seen) rest
      | [] => none
    else lineStringFrom mark escapes (b :: seen) rest

/-- The greatest number of quotes that may end a string over several lines: two of its own and three that
close it, and one more behind a backslash. -/
def maxClosing (escapes : Bool) (seen : Text) : Nat :=
  if escapes && seen.head? == some Text.backslash then 6 else 5

/-- The rest of a string over several lines, `seen` last first, with the `run` of quotes just passed and the
`most` that it may have. The string ends with the last three quotes of a run. -/
def blockStringFrom (mark : UInt8) (escapes : Bool) (run most : Nat) (seen : Text) : Text → Option (Text × Text)
  | [] => if 3 ≤ run && run ≤ most then some ((seen.drop 3).reverse, []) else none
  | b :: rest =>
    if b = mark then
      blockStringFrom mark escapes (run + 1) (if run = 0 then maxClosing escapes seen else most) (b :: seen) rest
    else if 3 ≤ run then if run ≤ most then some ((seen.drop 3).reverse, b :: rest) else none
    else if escapes && b = Text.backslash then
      match rest with
      | c :: rest => blockStringFrom mark escapes 0 most (c :: b :: seen) rest
      | [] => none
    else blockStringFrom mark escapes 0 most (b :: seen) rest

/-- The text without a line end at its very start. -/
def chopFirstBreak : Text → Text
  | 0x0a :: rest => rest
  | 0x0d :: 0x0a :: rest => rest
  | s => s

/-- The text without its escaped line ends: a backslash, a line end behind it and all blanks around that
vanish. `skipping` is set behind such a backslash. -/
def joinLinesFrom (skipping : Bool) (seen : Text) : Text → Text
  | [] => seen.reverse
  | b :: rest =>
    if skipping && Text.isLineBlank b then joinLinesFrom true seen rest
    else if b = Text.backslash then
      match rest with
      | 0x5c :: rest => joinLinesFrom false (0x5c :: b :: seen) rest
      | rest =>
        if (rest.takeWhile Text.isLineBlank).contains Text.lf then joinLinesFrom true seen rest
        else joinLinesFrom false (b :: seen) rest
    else joinLinesFrom false (b :: seen) rest

/-- The bytes that quote strings. -/
abbrev single : UInt8 := 0x27

/-- A string of one line that starts with its quote. -/
def lineString? : Text → Option (Text × Text)
  | b :: rest =>
    if b = Text.quote then do
      let (raw, rest) ← lineStringFrom b true [] rest
      some (← unescape? raw, rest)
    else if b = single then lineStringFrom b false [] rest
    else none
  | [] => none

def string? (s : Text) : Option (Text × Text) :=
  if Text.startsWith s [Text.quote, Text.quote, Text.quote] then do
    let (raw, rest) ← blockStringFrom Text.quote true 0 0 [] (s.drop 3)
    some (← unescape? (joinLinesFrom false [] (chopFirstBreak raw)), rest)
  else if Text.startsWith s [single, single, single] then do
    let (raw, rest) ← blockStringFrom single false 0 0 [] (s.drop 3)
    some (chopFirstBreak raw, rest)
  else lineString? s

/-! ## numbers -/

/-- Underscores stand between digits. -/
def underscoresFit (s : Text) : Bool :=
  let step (st : Bool × Bool) (b : UInt8) : Bool × Bool :=
    (st.1 && (b != 0x5f || st.2), Text.isHexDigit b)
  let (fits, last) := s.foldl step (true, false)
  fits && last

/-- A number starts with a zero that it does not need. -/
def hasLeadingZero (s : Text) : Bool :=
  match s with
  | a :: b :: rest =>
    (a = 0x30 && !(b = 0x62 || b = 0x6f || b = 0x78)) ||
      ((a = Text.dash || a = 0x2b) && b = 0x30 && !rest.isEmpty)
  | _ => false

def integer? (s : Text) : Option Value :=
  if underscoresFit s && !hasLeadingZero s then
    match Text.readMarkedInt64 s with
    | .ok n => some (.integer n)
    | .error _ => none
  else none

/-- A point or an exponent mark. -/
def isFloatMark (b : UInt8) : Bool := b = Text.dot || b = 0x65 || b = 0x45

/-- The parts of a number around points and exponent marks, empty ones left out. -/
def floatParts (s : Text) : List Text :=
  let parts := s.foldr (fun b (ps : List Text) =>
    if isFloatMark b then [] :: ps
    else match ps with
      | p :: rest => (b :: p) :: rest
      | [] => [[b]]) [[]]
  parts.filter fun p => !p.isEmpty

/-- The whole text is a sign, digits, a fraction and an exponent, the sign and the last two optional. -/
def isDecimal (s : Text) : Bool :=
  let body := (Text.signOf s).2
  let whole := body.takeWhile Text.isDigit
  let rest := body.dropWhile Text.isDigit
  let hasPoint := rest.head? == some Text.dot
  let fraction := if hasPoint then (rest.drop 1).takeWhile Text.isDigit else []
  let rest := if hasPoint then (rest.drop 1).dropWhile Text.isDigit else rest
  !whole.isEmpty && (!hasPoint || !fraction.isEmpty) &&
    (rest.isEmpty || ((rest.head? == some 0x65 || rest.head? == some 0x45) &&
      Text.isDigits (Text.signOf (rest.drop 1)).2))

/-- The number is too large for a double. -/
def overflows (s : Text) : Bool :=
  let l := Decimal.Literal.of s
  (Binary.double? l.magnitude l.value.exponent).isNone

/-- A number with a fraction or an exponent. -/
def float? (s : Text) : Option Value :=
  let parts := floatParts s
  let digits := s.filter (· ≠ 0x5f)
  if parts.all underscoresFit && !(parts.head?.any hasLeadingZero) && isDecimal digits && !overflows digits then
    some .other
  else none

/-- A byte of a number with a fraction or an exponent. -/
def isFloatByte (b : UInt8) : Bool :=
  Text.isDigit b || b = 0x5f || b = Text.dot || b = Text.dash || b = 0x2b || b = 0x65 || b = 0x45

def isPlainByte (b : UInt8) : Bool := Text.isDigit b || b = 0x5f

/-- The longest front of bytes of a class, read by `read`, and what follows it. -/
def span? (s : Text) (p : UInt8 → Bool) (read : Text → Option Value) : Option (Value × Text) :=
  (read (s.takeWhile p)).map fun v => (v, s.dropWhile p)

/-- A decimal number with `front` already passed. -/
def decimalAfter? (front s : Text) : Option (Value × Text) :=
  let run := s.takeWhile isPlainByte
  let rest := s.dropWhile isPlainByte
  if rest.head?.any isFloatMark then
    let tail := rest.takeWhile isFloatByte
    (float? (front ++ run ++ tail)).map fun v => (v, rest.dropWhile isFloatByte)
  else (integer? (front ++ run)).map fun v => (v, rest)

/-- A number in a base other than ten. -/
def based? (s : Text) (isBaseDigit : UInt8 → Bool) : Option (Value × Text) :=
  if (s.drop 2).head?.any isBaseDigit then
    let digits := (s.drop 2).takeWhile fun b => isBaseDigit b || b = 0x5f
    (integer? (s.take 2 ++ digits)).map fun v => (v, (s.drop 2).drop digits.length)
  else none

/-- A number, date or time that starts with a digit. -/
def numberOrDate? (s : Text) : Option (Value × Text) :=
  let mark := (s.drop 1).head?
  if s.head? == some 0x30 && mark == some 0x62 then based? s fun b => b = 0x30 || b = 0x31
  else if s.head? == some 0x30 && mark == some 0x6f then based? s fun b => 0x30 ≤ b && b ≤ 0x37
  else if s.head? == some 0x30 && mark == some 0x78 then based? s Text.isHexDigit
  else
    let run := s.takeWhile Text.isDigit
    let next := (s.dropWhile Text.isDigit).head?
    if (next == some Text.dash || next == some 0x3a) && run != [0x30] then
      span? s isDateByte fun t => if isDate t then some .other else none
    else decimalAfter? [] s

/-- A number behind its sign. -/
def signed? (sign : UInt8) (s : Text) : Option (Value × Text) :=
  if Text.startsWith s "inf" || Text.startsWith s "nan" then some (.other, s.drop 3)
  else match s with
    | 0x30 :: b :: _ => if b = 0x62 || b = 0x6f || b = 0x78 then none else decimalAfter? [sign] s
    | b :: _ => if Text.isDigit b then decimalAfter? [sign] s else none
    | [] => none

/-! ## keys -/

def keyPart? (s : Text) : Option (Text × Text) :=
  match s with
  | b :: _ =>
    if b = Text.quote || b = single then lineString? s
    else if isKeyByte b then some (s.takeWhile isKeyByte, s.dropWhile isKeyByte)
    else none
  | [] => none

/-- The parts of a key, `seen` last first, and what follows the blanks behind it. Every part takes a
byte, so `fuel` bounds their number. -/
def keyFrom (fuel : Nat) (seen : List Text) (s : Text) : Option (List Text × Text) :=
  match fuel with
  | 0 => none
  | fuel + 1 =>
    match keyPart? (skipBlanks s) with
    | none => none
    | some (part, rest) =>
      match skipBlanks rest with
      | 0x2e :: rest => keyFrom fuel (part :: seen) rest
      | rest => some ((part :: seen).reverse, rest)

def key? (s : Text) : Option (List Text × Text) := keyFrom (s.length + 1) [] s

/-! ## values -/

/-- The text after blanks, line ends and comments. Every comment takes a byte, so `fuel` bounds them. -/
def skipLinesFrom (fuel : Nat) (s : Text) : Text :=
  match fuel with
  | 0 => s
  | fuel + 1 =>
    match s.dropWhile Text.isLineBlank with
    | 0x23 :: rest => skipLinesFrom fuel (skipComment rest)
    | rest => rest

/-- The text after blanks, line ends and comments. -/
def skipLines (s : Text) : Text := skipLinesFrom (s.length + 1) s

mutual

/-- A value; every step takes a byte, so `fuel` bounds the steps. -/
def valueFrom (fuel : Nat) (s : Text) : Option (Value × Text) :=
  match fuel with
  | 0 => none
  | fuel + 1 =>
    match skipBlanks s with
    | [] => none
    | b :: rest =>
      if b = 0x5b then
        match skipLines rest with
        | 0x5d :: rest => some (.list [], rest)
        | rest => itemsFrom fuel [] rest
      else if b = 0x7b then
        match skipBlanks rest with
        | 0x7d :: rest => some (.inline [], rest)
        | rest => fieldsFrom fuel [] rest
      else if b = Text.quote || b = single then (string? (b :: rest)).map fun p => (.text p.1, p.2)
      else if b = Text.dash || b = 0x2b then signed? b rest
      else if Text.isDigit b then numberOrDate? (b :: rest)
      else
        let word := (b :: rest).takeWhile Text.isLetter
        let rest := (b :: rest).dropWhile Text.isLetter
        if word == Text.ofString "true" then some (.boolean true, rest)
        else if word == Text.ofString "false" then some (.boolean false, rest)
        else if word == Text.ofString "inf" || word == Text.ofString "nan" then some (.other, rest)
        else none

/-- The items of a list from one on, with those before it, last first. -/
def itemsFrom (fuel : Nat) (seen : List Value) (s : Text) : Option (Value × Text) :=
  match fuel with
  | 0 => none
  | fuel + 1 =>
    match valueFrom fuel s with
    | none => none
    | some (item, rest) =>
      match skipLines rest with
      | 0x5d :: rest => some (.list (item :: seen).reverse, rest)
      | 0x2c :: rest =>
        match skipLines rest with
        -- a list may end in a comma, an inline table may not
        | 0x5d :: rest => some (.list (item :: seen).reverse, rest)
        | rest => itemsFrom fuel (item :: seen) rest
      | _ => none

/-- The fields of an inline table from one on, with those before it, last first. It stays on one line. -/
def fieldsFrom (fuel : Nat) (seen : List (List Text × Value)) (s : Text) : Option (Value × Text) :=
  match fuel with
  | 0 => none
  | fuel + 1 =>
    match key? s with
    | some (key, 0x3d :: rest) =>
      match valueFrom fuel rest with
      | none => none
      | some (value, rest) =>
        match skipBlanks rest with
        | 0x7d :: rest => some (.inline ((key, value) :: seen).reverse, rest)
        | 0x2c :: rest => fieldsFrom fuel ((key, value) :: seen) (skipBlanks rest)
        | _ => none
    | _ => none

end

def value? (s : Text) : Option (Value × Text) := valueFrom (s.length + 1) s

/-! ## documents -/

/-- What may stand between the end of a statement and the end of its line. -/
def endLine? (s : Text) : Option Text :=
  match skipBlanks s with
  | [] => some []
  | b :: rest =>
    if b = 0x23 then some (skipComment rest)
    else if Text.isLineEnd b then some rest
    else none

/-- The statement at the front of a text, and what follows it. -/
def statement? (s : Text) : Option (Statement × Text) :=
  match s with
  | 0x5b :: 0x5b :: rest =>
    match key? rest with
    | some (key, 0x5d :: 0x5d :: rest) => some (.tableOfList key, rest)
    | _ => none
  | 0x5b :: rest =>
    match key? rest with
    | some (key, 0x5d :: rest) => some (.table key, rest)
    | _ => none
  | s =>
    match key? s with
    | some (key, 0x3d :: rest) => (value? rest).map fun p => (.assign key p.1, p.2)
    | _ => none

/-- The statements of a text, with those before them, last first. Every statement takes a byte, so
`fuel` bounds their number. -/
def statementsFrom (fuel : Nat) (seen : List Statement) (s : Text) : Option (List Statement) :=
  match fuel with
  | 0 => none
  | fuel + 1 =>
    match skipLines s with
    | [] => some seen.reverse
    | s =>
      match statement? s with
      | none => none
      | some (statement, rest) =>
        match endLine? rest with
        | none => none
        | some rest => statementsFrom fuel (statement :: seen) rest

/-- Every carriage return stands before a line feed. -/
def returnsPaired : Text → Bool
  | [] => true
  | [b] => b ≠ Text.cr
  | b :: c :: rest => (b ≠ Text.cr || c = Text.lf) && returnsPaired (c :: rest)

/-- No control character, no lone carriage return, no stray byte and no replacement character. -/
def legible (s : Text) : Bool :=
  s.all (fun b => (0x20 ≤ b && b ≠ 0x7f) || b = Text.tab || b = Text.lf || b = Text.cr) &&
    returnsPaired s && !(Text.pieces s).any fun p => p.code = 0xfffd

/-- A text without its byte-order mark. -/
def chopMark : Text → Text
  | 0xff :: 0xfe :: rest => rest
  | 0xfe :: 0xff :: rest => rest
  | 0xef :: 0xbb :: 0xbf :: rest => rest
  | s => s

/-- The top-level names of a TOML document. -/
def parse? (s : Text) : Option Entries :=
  let s := chopMark s
  if legible s then (statementsFrom (s.length + 1) [] s).bind entries? else none

end CastAudit.Toml
