import CastAudit.Text.Blank

/-!
# Writing rows

Fields stand between commas, rows end in a line feed. A field is quoted when it holds a comma, a quote
or a line end, when it starts with white space, and when it is `\.`; inside quotes a quote is doubled.
-/

namespace CastAudit.Csv

/-- A byte that forces quotes. -/
def isSpecial (b : UInt8) : Bool :=
  b = Text.comma || b = Text.quote || b = Text.cr || b = Text.lf

def needsQuotes (field : Text) : Bool :=
  field == [Text.backslash, Text.dot] || field.any isSpecial || Text.startsBlank field

def writeField (field : Text) : Text :=
  if needsQuotes field then
    Text.quote :: field.flatMap (fun b => if b = Text.quote then [b, b] else [b]) ++ [Text.quote]
  else field

def writeRow (fields : List Text) : Text := Text.join [Text.comma] (fields.map writeField) ++ [Text.lf]

/-- Rows as they are written. -/
def writeRows (rows : List (List Text)) : Text := rows.flatMap writeRow

end CastAudit.Csv
