import CastAudit.Calendar

/-!
# Dates and times in TOML

A date, a time of day, or both joined by a `T` or a space and perhaps followed by a zone.
-/

namespace CastAudit.Toml

def isDateByte (b : UInt8) : Bool := Text.isDigit b || (Text.ofString "-:Tt .Zz+").contains b

def isDate (s : Text) : Bool :=
  let s := (Text.dropAround s (· = Text.space)).map fun b =>
    if b = 0x7a then 0x5a else if b = 0x74 || b = Text.space then 0x54 else b
  Calendar.isMoment s || Calendar.isLocalMoment s || Calendar.isDay s || Calendar.isTime s

end CastAudit.Toml
