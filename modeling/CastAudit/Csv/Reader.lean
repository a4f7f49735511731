import CastAudit.Csv.Error
import CastAudit.Text.Blank

/-!
# Reading rows

A reader of comma-separated values as a machine on bytes. `normalize` first makes all line ends line
feeds; the machine then walks through the content with a mode that says where in a row it stands.
Empty lines are passed over. A strict reader stops at the first malformed row; a lenient one takes a
misplaced quote for itself, so it never stops.
-/

namespace CastAudit.Csv

/-- What a reader asks for and what it lets pass. -/
structure Dialect where
  /-- The number of fields that every row must have. -/
  fieldCount : Option Nat := none
  /-- White space at the start of a field is dropped. -/
  trimStart : Bool := false
  /-- Misplaced quotes are taken as they stand. -/
  lenient : Bool := false
  /-- Lines that start with this byte are passed over. -/
  comment : Option UInt8 := none
deriving Repr, BEq, DecidableEq, Inhabited

/-- A field with the line on which it starts. -/
structure Field where
  text : Text
  line : Nat
deriving Repr, BEq, DecidableEq, Inhabited

abbrev Row := List Field

/-- The rows before the first malformed one, and that one's error. -/
structure Reading where
  rows : List Row
  error : Option Error
deriving Repr, BEq, DecidableEq, Inhabited

/-! ## line ends -/

/-- The loop of `normalize`, with the bytes kept so far, last first. -/
def normalizeFrom (seen : Text) : Text → Text
  | [] => seen.reverse
  | [b] => if b = Text.cr then seen.reverse else (b :: seen).reverse
  | b :: c :: rest =>
    if b = Text.cr && c = Text.lf then normalizeFrom seen (c :: rest)
    else normalizeFrom (b :: seen) (c :: rest)

/-- The content with line feeds for line ends, without a carriage return at its very end. -/
def normalize (content : Text) : Text := normalizeFrom [] content

/-! ## the machine -/

/-- Where in a row the reader stands. -/
inductive Mode where
  /-- At the start of a line, between rows. -/
  | rowStart
  | comment
  | fieldStart
  /-- In a field without quotes. -/
  | plain
  /-- Between the quotes of a field. -/
  | quoted
  /-- Behind a quote in a quoted field, which closes the field or is the first of two. -/
  | quoteSeen
deriving Repr, BEq, DecidableEq, Inhabited

/-- The state of the reader. Fields and rows are kept last first, the field under way last byte first. -/
structure State where
  mode : Mode := .rowStart
  line : Nat := 1
  column : Nat := 1
  /-- The line on which the row starts. -/
  startLine : Nat := 1
  /-- The line on which the field starts. -/
  fieldLine : Nat := 1
  field : Text := []
  fields : List Field := []
  rows : List Row := []
deriving Repr, BEq, DecidableEq, Inhabited

namespace State

/-- The state after a byte that does not end a line. -/
def next (st : State) (mode : Mode) : State := { st with mode, column := st.column + 1 }

/-- The state with a byte added to its field. -/
def keep (st : State) (b : UInt8) : State := { st with field := b :: st.field }

/-- The state with its field finished. -/
def endField (st : State) : State :=
  { st with field := [], fields := ⟨st.field.reverse, st.fieldLine⟩ :: st.fields }

/-- The state with its row finished, at the start of the next line. -/
def endRow (st : State) : State :=
  { st.endField with
    mode := .rowStart, line := st.line + 1, column := 1,
    fields := [], rows := st.endField.fields.reverse :: st.rows }

/-- The state at the start of the next line. -/
def nextLine (st : State) (mode : Mode) : State := { st with mode, line := st.line + 1, column := 1 }

/-- What was read. -/
def finish (st : State) (error : Option Error) : Reading := ⟨st.rows.reverse, error⟩

/-- An error at a column of the current line. -/
def fail (st : State) (column : Nat) (fault : Fault) : Reading :=
  st.finish (some ⟨st.startLine, st.line, column, fault⟩)

/-- The number of fields of the row under way is not the one asked for. -/
def miscounted (d : Dialect) (st : State) : Bool := d.fieldCount.any (· ≠ st.fields.length + 1)

/-- The error of a row with a wrong number of fields. -/
def miscount (st : State) : Reading :=
  st.finish (some ⟨st.startLine, st.startLine, 1, .fieldCount⟩)

end State

/-- The number of bytes of a white-space character at the front, the line feed apart; zero without one. -/
def blankSize : Text → Nat
  | [] => 0
  | b :: rest =>
    if b = Text.lf then 0
    else if Text.startsBlank (b :: rest) then
      ((Text.pieces ((b :: rest).take 4)).head?.map fun p => p.bytes.length).getD 0
    else 0

/-- The loop of `read`. `skip` bytes of a white-space character are still to be passed. -/
def readFrom (d : Dialect) (skip : Nat) (st : State) : Text → Reading
  | [] =>
    match st.mode with
    | .rowStart | .comment => st.finish none
    -- the last row needs no line feed
    | .fieldStart | .plain | .quoteSeen =>
      if st.miscounted d then st.miscount else st.endRow.finish none
    | .quoted =>
      -- a lenient reader takes the end of the content for the missing quote
      if !d.lenient then st.fail st.column .looseQuote
      else if st.miscounted d then st.miscount else st.endRow.finish none
  | b :: rest =>
    match skip with
    | skip + 1 => readFrom d skip (st.next st.mode) rest
    | 0 =>
      -- a row starts like a field, once empty lines and comments are passed
      let start (st : State) : Reading :=
        if d.trimStart && 0 < blankSize (b :: rest) then
          readFrom d (blankSize (b :: rest) - 1) (st.next .fieldStart) rest
        else if b = Text.quote then
          readFrom d 0 { st.next .quoted with fieldLine := st.line } rest
        else if b = Text.comma then
          readFrom d 0 ({ st with fieldLine := st.line }.endField.next .fieldStart) rest
        else if b = Text.lf then
          if st.miscounted d then st.miscount
          else readFrom d 0 { st with fieldLine := st.line }.endRow rest
        else readFrom d 0 ({ st with fieldLine := st.line }.keep b |>.next .plain) rest
      match st.mode with
      | .rowStart =>
        if d.comment == some b then readFrom d 0 (st.next .comment) rest
        else if b = Text.lf then readFrom d 0 (st.nextLine .rowStart) rest
        else start { st with startLine := st.line }
      | .comment => readFrom d 0 (if b = Text.lf then st.nextLine .rowStart else st.next .comment) rest
      | .fieldStart => start st
      | .plain =>
        if b = Text.comma then readFrom d 0 (st.endField.next .fieldStart) rest
        else if b = Text.lf then
          if st.miscounted d then st.miscount else readFrom d 0 st.endRow rest
        else if b = Text.quote && !d.lenient then st.fail st.column .bareQuote
        else readFrom d 0 (st.keep b |>.next .plain) rest
      | .quoted =>
        if b = Text.quote then readFrom d 0 (st.next .quoteSeen) rest
        -- a line feed at the very end starts no line, so an open quote is told on the line before it
        else if b = Text.lf && !rest.isEmpty then readFrom d 0 (st.keep b |>.nextLine .quoted) rest
        else readFrom d 0 (st.keep b |>.next .quoted) rest
      | .quoteSeen =>
        if b = Text.quote then readFrom d 0 (st.keep b |>.next .quoted) rest
        else if b = Text.comma then readFrom d 0 (st.endField.next .fieldStart) rest
        else if b = Text.lf then
          if st.miscounted d then st.miscount else readFrom d 0 st.endRow rest
        -- the quote closed nothing: it belongs to the field, and so does the byte behind it
        else if d.lenient then readFrom d 0 ((st.keep Text.quote).keep b |>.next .quoted) rest
        else st.fail (st.column - 1) .looseQuote

def read (d : Dialect) (content : Text) : Reading := readFrom d 0 {} (normalize content)

end CastAudit.Csv
