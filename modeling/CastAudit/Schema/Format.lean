import CastAudit.Calendar
import CastAudit.Mail
import CastAudit.Regex.Reader
import CastAudit.Url

/-!
# Formats of strings

The formats that a schema can ask for by name. A format without a rule accepts everything.
-/

namespace CastAudit.Schema

/-- A hexadecimal digit in lower case. -/
def isSmallHexDigit (b : UInt8) : Bool := Text.isHexDigit b && Text.lowerByte b = b

/-- Groups of hexadecimal digits of given lengths with hyphens between. -/
def isGrouped (lengths : List Nat) (s : Text) : Bool :=
  let groups := Text.splitOn s [Text.dash]
  groups.map List.length == lengths && groups.all fun g => g.all isSmallHexDigit

/-- The expression that a text writes occurs in a string. -/
def holdsPattern (written : String) (s : Text) : Bool := (Regex.parse? written).any fun r => r.occursIn s

/-- A time of day, with a zone or without. -/
def isTime (s : Text) : Bool := Calendar.isTime s || Calendar.isZonedTime s

/-- A label of a host name: letters, digits and hyphens, no hyphen at either end. -/
def isLabel (s : Text) : Bool :=
  let isPlain (b : UInt8) : Bool := Text.isLetter b || Text.isDigit b
  s.head?.any isPlain && s.getLast?.any isPlain && s.all (fun b => isPlain b || b = Text.dash) && s.length ≤ 63

def isHostName (s : Text) : Bool := s.length < 256 && (Text.splitOn s [Text.dot]).all isLabel

def isReference (s : Text) : Bool := (Url.parse? s).isSome && !s.contains Text.backslash

def isWholeReference (s : Text) : Bool := isReference s && (Url.parse? s).any fun u => !u.scheme.isEmpty

def formats : List (Text × (Text → Bool)) :=
  [("date", Calendar.isDay), ("time", isTime),
   ("date-time", fun s => isTime s || Calendar.isDay s || Calendar.isMoment s),
   ("hostname", isHostName), ("email", Mail.isAddress), ("idn-email", Mail.isAddress),
   ("ipv4", fun s => Internet.isAddress s && s.contains Text.dot),
   ("ipv6", fun s => Internet.isAddress s && s.contains 0x3a),
   ("uri", isWholeReference), ("uri-reference", isReference), ("iri", isWholeReference),
   ("iri-reference", isReference),
   ("uri-template", fun s =>
     isReference s && (Url.parse? s).any fun u => holdsPattern "^([^\x7b]*(\x7b[^\x7d]*\x7d)?)*$" u.path),
   ("uuid", isGrouped [8, 4, 4, 4, 12]), ("regex", fun s => (Regex.parse? s).isSome),
   ("json-pointer", holdsPattern "^(?:/(?:[^~/]|~0|~1)*)*$"),
   ("relative-json-pointer", holdsPattern "^(?:0|[1-9][0-9]*)(?:#|(?:/(?:[^~/]|~0|~1)*)*)$")]

def hasFormat (format s : Text) : Bool := (formats.lookup format).all fun rule => rule s

def isFormat (format : Text) : Bool := (formats.lookup format).isSome

end CastAudit.Schema
