import CastAudit.Json.Basic
import CastAudit.Text.Quoted

/-!
# Printing JSON

`compact` writes a value on one line, `indented` with two spaces for each level. Characters that could
end a script or a line in other languages are escaped as well, and a stray byte is written as the
escaped replacement character.
-/

namespace CastAudit.Json

/-- The escape with the four digits of a code. -/
def unicodeEscape (code : Nat) : Text := [Text.backslash, 0x75] ++ Text.hex 4 code

/-- A character inside a JSON string. -/
def escapeCode (code : Nat) (bytes : Text) : Text :=
  if code = 0x22 ∨ code = 0x5c then Text.backslash :: bytes
  else if code = 0x08 then [Text.backslash, 0x62]
  else if code = 0x0c then [Text.backslash, 0x66]
  else if code = 0x0a then [Text.backslash, 0x6e]
  else if code = 0x0d then [Text.backslash, 0x72]
  else if code = 0x09 then [Text.backslash, 0x74]
  else if code < 0x20 ∨ code = 0x3c ∨ code = 0x3e ∨ code = 0x26 ∨ code = 0x2028 ∨ code = 0x2029 then
    unicodeEscape code
  else bytes

/-- A piece inside a JSON string. -/
def escapePiece : Text.Piece → Text
  | .scalar code bytes => escapeCode code bytes
  | .stray _ => unicodeEscape 0xfffd

def quote (s : Text) : Text := Text.quote :: (Text.pieces s).flatMap escapePiece ++ [Text.quote]

mutual

/-- A value on one line. -/
def compact : Json → Text
  | null => "null"
  | bool true => "true"
  | bool false => "false"
  | number literal => literal
  | string s => quote s
  | array items => 0x5b :: compactItems items
  | object fields => 0x7b :: compactFields fields

/-- The items of an array, up to its closing bracket. -/
def compactItems : List Json → Text
  | [] => [0x5d]
  | [item] => compact item ++ [0x5d]
  | item :: rest => compact item ++ Text.comma :: compactItems rest

/-- The fields of an object, up to its closing bracket. -/
def compactFields : List (Text × Json) → Text
  | [] => [0x7d]
  | [(name, value)] => quote name ++ 0x3a :: (compact value ++ [0x7d])
  | (name, value) :: rest => quote name ++ 0x3a :: (compact value ++ Text.comma :: compactFields rest)

end

def newLine (level : Nat) : Text := Text.lf :: List.replicate (2 * level) Text.space

mutual

/-- A value over several lines, inside `level` brackets. -/
def indented (level : Nat) : Json → Text
  | array [] => [0x5b, 0x5d]
  | array (item :: rest) =>
    0x5b :: newLine (level + 1) ++ indented (level + 1) item ++ indentedItems (level + 1) rest ++
      newLine level ++ [0x5d]
  | object [] => [0x7b, 0x7d]
  | object ((name, value) :: rest) =>
    0x7b :: newLine (level + 1) ++ quote name ++ [0x3a, Text.space] ++ indented (level + 1) value ++
      indentedFields (level + 1) rest ++ newLine level ++ [0x7d]
  | null => "null"
  | bool true => "true"
  | bool false => "false"
  | number literal => literal
  | string s => quote s

/-- The items of an array after the first. -/
def indentedItems (level : Nat) : List Json → Text
  | [] => []
  | item :: rest => Text.comma :: newLine level ++ indented level item ++ indentedItems level rest

/-- The fields of an object after the first. -/
def indentedFields (level : Nat) : List (Text × Json) → Text
  | [] => []
  | (name, value) :: rest =>
    Text.comma :: newLine level ++ quote name ++ [0x3a, Text.space] ++ indented level value ++
      indentedFields level rest

end

end CastAudit.Json
