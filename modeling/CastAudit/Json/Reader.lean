import CastAudit.Json.Basic

/-!
# Reading JSON

A reader of JSON texts. Strings may hold any bytes from the space on; stray bytes and halves of
surrogate pairs become replacement characters. Brackets nest at most `maxDepth` deep.
-/

namespace CastAudit.Json

/-- The greatest depth of brackets. -/
abbrev maxDepth : Nat := 10000

/-- JSON's white space. -/
def isBlank (b : UInt8) : Bool := Text.isLineBlank b

/-- The text after white space. -/
def skipBlanks (s : Text) : Text := s.dropWhile isBlank

/-! ## strings -/

/-- The value of four hexadecimal digits. -/
def hex4? (a b c d : UInt8) : Option Nat :=
  if [a, b, c, d].all Text.isHexDigit then
    some (((Text.hexValue a * 16 + Text.hexValue b) * 16 + Text.hexValue c) * 16 + Text.hexValue d)
  else none

/-- The first half of a surrogate pair. -/
def isHigh (code : Nat) : Bool := 0xd800 ≤ code && code < 0xdc00

/-- The second half of a surrogate pair. -/
def isLow (code : Nat) : Bool := 0xdc00 ≤ code && code < 0xe000

def pairCode (high low : Nat) : Nat := 0x10000 + (high - 0xd800) * 0x400 + (low - 0xdc00)

/-- The byte of a one-letter escape. -/
def shortEscape? (b : UInt8) : Option UInt8 :=
  if b = 0x22 || b = 0x5c || b = 0x2f then some b
  else if b = 0x62 then some 0x08
  else if b = 0x66 then some 0x0c
  else if b = 0x6e then some 0x0a
  else if b = 0x72 then some 0x0d
  else if b = 0x74 then some 0x09
  else none

/-- The bytes put in front of a reversed text. -/
def pushAll (bytes seen : Text) : Text := bytes.reverse ++ seen

/-- The rest of a string behind its opening quote: its bytes so far, last first, the first half of a
surrogate pair that awaits its second, and what is left to read. -/
def stringFrom (seen : Text) (high : Option Nat) : Text → Option (Text × Text)
  | [] => none
  | 0x5c :: 0x75 :: a :: b :: c :: d :: rest =>
    let settled := match high with
      | some _ => pushAll Text.replacement seen
      | none => seen
    match hex4? a b c d with
    | none => none
    | some code =>
      match high with
      | some h =>
        -- both halves of a pair make one character; a half alone is replaced
        if isLow code then stringFrom (pushAll (Text.encode (pairCode h code)) seen) none rest
        else if isHigh code then stringFrom settled (some code) rest
        else stringFrom (pushAll (Text.encode code) settled) none rest
      | none =>
        if isHigh code then stringFrom seen (some code) rest
        else stringFrom (pushAll (Text.encode code) seen) none rest
  | b :: rest =>
    let settled := match high with
      | some _ => pushAll Text.replacement seen
      | none => seen
    if b = Text.quote then some (settled.reverse, rest)
    else if b = Text.backslash then
      match rest with
      | e :: rest =>
        match shortEscape? e with
        | some x => stringFrom (x :: settled) none rest
        | none => none
      | [] => none
    -- control characters must be escaped
    else if b < 0x20 then none
    else stringFrom (b :: settled) none rest

/-- Every stray byte becomes a replacement character of its own. -/
def mend (s : Text) : Text :=
  (Text.pieces s).flatMap fun p => if p.isStray then Text.replacement else p.bytes

/-- A string behind its opening quote, and what follows it. -/
def string? (s : Text) : Option (Text × Text) :=
  (stringFrom [] none s).map fun p => (mend p.1, p.2)

/-! ## numbers -/

/-- A non-empty run of digits and what follows it. -/
def digits? (s : Text) : Option (Text × Text) :=
  let run := s.takeWhile Text.isDigit
  if run.isEmpty then none else some (run, s.dropWhile Text.isDigit)

/-- The digits before the point: a zero stands alone. -/
def whole? : Text → Option (Text × Text)
  | 0x30 :: rest => some ([0x30], rest)
  | s => digits? s

/-- The fraction, if there is a point. -/
def fraction? : Text → Option (Text × Text)
  | 0x2e :: rest => (digits? rest).map fun p => (0x2e :: p.1, p.2)
  | s => some ([], s)

/-- The exponent, if there is a mark. -/
def exponent? : Text → Option (Text × Text)
  | [] => some ([], [])
  | e :: rest =>
    if e = 0x65 || e = 0x45 then
      match rest with
      | sign :: rest' =>
        if sign = 0x2b || sign = 0x2d then (digits? rest').map fun p => (e :: sign :: p.1, p.2)
        else (digits? rest).map fun p => (e :: p.1, p.2)
      | [] => none
    else some ([], e :: rest)

/-- A number and what follows it. -/
def number? (s : Text) : Option (Text × Text) := do
  let sign : Text := if s.head? == some Text.dash then [Text.dash] else []
  let (whole, rest) ← whole? (s.drop sign.length)
  let (fraction, rest) ← fraction? rest
  let (exponent, rest) ← exponent? rest
  some (sign ++ whole ++ fraction ++ exponent, rest)

/-! ## values -/

/-- A word in front of a text is taken off. -/
def word? (word s : Text) (value : Json) : Option (Json × Text) :=
  if Text.startsWith s word then some (value, s.drop word.length) else none

mutual

/-- A value at the front of a text without leading blanks. Every step takes a byte, so `fuel` bounds
the steps; `depth` brackets may still be opened. -/
def valueFrom (fuel depth : Nat) (s : Text) : Option (Json × Text) :=
  match fuel with
  | 0 => none
  | fuel + 1 =>
    match s with
    | [] => none
    | b :: rest =>
      if b = Text.quote then (string? rest).map fun p => (string p.1, p.2)
      else if b = 0x5b then
        match depth with
        | 0 => none
        | depth + 1 =>
          match skipBlanks rest with
          | 0x5d :: rest => some (array [], rest)
          | rest => itemsFrom fuel depth [] rest
      else if b = 0x7b then
        match depth with
        | 0 => none
        | depth + 1 =>
          match skipBlanks rest with
          | 0x7d :: rest => some (object [], rest)
          | rest => fieldsFrom fuel depth [] rest
      else if b = 0x74 then word? "true" s (bool true)
      else if b = 0x66 then word? "false" s (bool false)
      else if b = 0x6e then word? "null" s null
      else (number? s).map fun p => (number p.1, p.2)

/-- The items of an array from one on, with those before it, last first. -/
def itemsFrom (fuel depth : Nat) (seen : List Json) (s : Text) : Option (Json × Text) :=
  match fuel with
  | 0 => none
  | fuel + 1 =>
    match valueFrom fuel depth s with
    | none => none
    | some (item, rest) =>
      match skipBlanks rest with
      | 0x2c :: rest => itemsFrom fuel depth (item :: seen) (skipBlanks rest)
      | 0x5d :: rest => some (array (item :: seen).reverse, rest)
      | _ => none

/-- The fields of an object from one on, with those before it, last first. -/
def fieldsFrom (fuel depth : Nat) (seen : List (Text × Json)) (s : Text) : Option (Json × Text) :=
  match fuel with
  | 0 => none
  | fuel + 1 =>
    match s with
    | 0x22 :: rest =>
      match string? rest with
      | none => none
      | some (name, rest) =>
        match skipBlanks rest with
        | 0x3a :: rest =>
          match valueFrom fuel depth (skipBlanks rest) with
          | none => none
          | some (value, rest) =>
            match skipBlanks rest with
            | 0x2c :: rest => fieldsFrom fuel depth ((name, value) :: seen) (skipBlanks rest)
            | 0x7d :: rest => some (object ((name, value) :: seen).reverse, rest)
            | _ => none
        | _ => none
    | _ => none

end

/-- The first value of a text and what follows it. -/
def first? (s : Text) : Option (Json × Text) := valueFrom (s.length + 1) maxDepth (skipBlanks s)

/-- The value of a text that holds one value and blanks. -/
def parse? (s : Text) : Option Json := do
  let (value, rest) ← first? s
  if rest.all isBlank then some value else none

end CastAudit.Json
