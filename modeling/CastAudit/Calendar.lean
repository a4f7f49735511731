import CastAudit.Text.Decimal

/-!
# Dates and times of day

Which texts are dates of the calendar, times of day, zones, and moments, which have all three.
-/

namespace CastAudit.Calendar

def isLeap (year : Nat) : Bool := year % 4 = 0 && (year % 100 ≠ 0 || year % 400 = 0)

def daysIn (year month : Nat) : Nat :=
  if month = 2 then (if isLeap year then 29 else 28)
  else if month = 4 || month = 6 || month = 9 || month = 11 then 30
  else 31

def isDay : Text → Bool
  | [a, b, c, d, 0x2d, e, f, 0x2d, g, h] =>
    let year := Text.digitsValue [a, b, c, d]
    let month := Text.digitsValue [e, f]
    let day := Text.digitsValue [g, h]
    [a, b, c, d, e, f, g, h].all Text.isDigit && 1 ≤ month && month ≤ 12 && 1 ≤ day && day ≤ daysIn year month
  | _ => false

/-- The text behind a fraction of a second, which a point or a comma starts. -/
def afterFraction (s : Text) : Text :=
  match s with
  | mark :: b :: rest =>
    if (mark = Text.dot || mark = Text.comma) && Text.isDigit b then rest.dropWhile Text.isDigit else s
  | _ => s

/-- The text behind minutes and seconds of two digits each, with the colons before them. -/
def afterMinutes? : Text → Option Text
  | 0x3a :: a :: b :: 0x3a :: c :: d :: rest =>
    if [a, b, c, d].all Text.isDigit && Text.digitsValue [a, b] < 60 && Text.digitsValue [c, d] < 60 then
      some (afterFraction rest)
    else none
  | _ => none

/-- The text behind a time of day: hours of one or two digits, minutes and seconds. -/
def afterTime? (s : Text) : Option Text :=
  let hours := (s.take 2).takeWhile Text.isDigit
  if !hours.isEmpty && Text.digitsValue hours < 24 then afterMinutes? (s.drop hours.length) else none

def isTime (s : Text) : Bool := afterTime? s == some []

/-- A zone: `Z`, or a sign with hours and minutes. -/
def isZone : Text → Bool
  | [0x5a] => true
  | [sign, a, b, 0x3a, c, d] =>
    (sign = 0x2b || sign = Text.dash) && [a, b, c, d].all Text.isDigit && Text.digitsValue [a, b] ≤ 24 &&
      Text.digitsValue [c, d] ≤ 60
  | _ => false

def isZonedTime (s : Text) : Bool := (afterTime? s).any isZone

/-- A date, a `T` and a time of some form. -/
def isJoined (isTimePart : Text → Bool) (s : Text) : Bool :=
  (Text.cut? s "T").any fun (day, time) => isDay day && isTimePart time

/-- A moment: a date and a time of day in a zone. -/
def isMoment (s : Text) : Bool := isJoined isZonedTime s

/-- A date and a time of day without a zone. -/
def isLocalMoment (s : Text) : Bool := isJoined isTime s

end CastAudit.Calendar
