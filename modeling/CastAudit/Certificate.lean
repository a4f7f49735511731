import CastAudit.Calendar
import CastAudit.Curve.Twisted
import CastAudit.Text.Base64

/-!
# Certificates and their keys

Certificates and private keys stand in files of blocks: a line that begins a block and names it, header lines,
lines of base sixty-four, and a line that ends it. The bytes are nested elements of a tag, a length and a
content. `isCertificateFile` says that a file has a certificate, `isKeyPair` that a private key belongs to
the certificate of another file.
-/

namespace CastAudit.Certificate

/-! ## blocks -/

/-- A block of a file. -/
structure Block where
  label : Text
  headers : List Text
  content : Text
deriving Repr, BEq, DecidableEq, Inhabited

/-- The line that begins or ends a block. -/
def boundary (word label : Text) : Text := "-----" ++ word ++ " " ++ label ++ "-----"

/-- The name of the block that a line begins. -/
def label? (line : Text) : Option Text :=
  let label := (Text.chopPrefix line "-----BEGIN ").dropLast.dropLast.dropLast.dropLast.dropLast
  if line == boundary "BEGIN" label then some label else none

/-- The block with a name, given the lines after its first. -/
def block? (label : Text) (lines : List Text) : Option Block := do
  let headers := lines.takeWhile fun l => l.contains 0x3a
  let body := lines.drop headers.length
  let data := body.takeWhile fun l => !Text.startsWith l "-----END"
  if (body.drop data.length).head? != some (boundary "END" label) then none
  let digits := data.flatten.filter fun b => b ≠ Text.space && b ≠ Text.tab
  some { label, headers, content := ← Text.fromBase64? digits }

def blocksOf : List Text → List Block
  | [] => []
  | line :: rest => ((label? line).bind fun label => block? label rest).toList ++ blocksOf rest

def blocks (file : Text) : List Block :=
  blocksOf ((Text.splitOn file [Text.lf]).map fun line => Text.dropEnd line Text.isLineBlank)

/-! ## elements -/

/-- A tag and a content. -/
abbrev Element := UInt8 × Text

/-- The number of some bytes, highest first. -/
def number (bytes : Text) : Nat := bytes.foldl (fun n b => n * 256 + b.toNat) 0

/-- The length of an element and what follows it. Short lengths are one byte; before others stands the number
of their bytes, of which there are no more than needed. -/
def length? : Text → Option (Nat × Text)
  | [] => none
  | b :: rest =>
    if b < 0x80 then some (b.toNat, rest)
    else
      let size := b.toNat - 0x80
      let bytes := rest.take size
      if size = 0 || 4 < size || bytes.length < size || bytes.head? == some 0 || number bytes < 0x80 then none
      else some (number bytes, rest.drop size)

/-- The element at the front of a text and what follows it. -/
def element? : Text → Option (Element × Text)
  | [] => none
  | tag :: rest => do
    let (size, rest) ← length? rest
    if rest.length < size then none else some ((tag, rest.take size), rest.drop size)

/-- The elements of a text after those already read, last first. Every element takes a byte, so `fuel`
bounds them. -/
def elementsFrom (fuel : Nat) (seen : List Element) (s : Text) : Option (List Element) :=
  match fuel with
  | 0 => none
  | fuel + 1 =>
    if s.isEmpty then some seen.reverse
    else match element? s with
      | some (e, rest) => elementsFrom fuel (e :: seen) rest
      | none => none

/-- The elements that a text is made of. -/
def elements? (s : Text) : Option (List Element) := elementsFrom (s.length + 1) [] s

/-- The elements of the sequence that a text is. -/
def sequence? (s : Text) : Option (List Element) :=
  match elements? s with
  | some [(0x30, content)] => elements? content
  | _ => none

/-! ## keys -/

/-- A public key, or what a private key has in common with it. -/
inductive Key where
  | point (curve : Text) (point : Nat × Nat)
  /-- A point of the twisted curve, as it is written. -/
  | twisted (written : Text)
  /-- A product of two primes. -/
  | product (n : Nat)
  /-- A key of any other kind. -/
  | other (kind : Text)
deriving Repr, BEq, DecidableEq, Inhabited

/-- The name of keys that are points. -/
abbrev pointKeys : Text := [0x2a, 0x86, 0x48, 0xce, 0x3d, 0x02, 0x01]

/-- The name of keys that are points of the twisted curve. -/
abbrev twistedKeys : Text := [0x2b, 0x65, 0x70]

/-- The size of such a key, and of the seed that it is made from. -/
abbrev twistedSize : Nat := 32

/-- The name of keys that are products. -/
abbrev productKeys : Text := [0x2a, 0x86, 0x48, 0x86, 0xf7, 0x0d, 0x01, 0x01, 0x01]

/-- The point of a curve that some bytes give. -/
def point? (curve bytes : Text) : Option Key := do
  let c ← Curve.named? curve
  let size := (c.prime.log2 + 8) / 8
  let p := (number ((bytes.drop 1).take size), number (bytes.drop (1 + size)))
  if bytes.head? == some 0x04 && bytes.length = 1 + 2 * size && c.holds p then some (.point curve p) else none

/-- The public key of the element that describes it. -/
def publicKey? (content : Text) : Option Key :=
  match elements? content with
  -- a sequence that names the kind, and a string of bits without unused ones
  | some [(0x30, kind), (0x03, 0 :: bytes)] =>
    match elements? kind with
    | some ((0x06, name) :: more) =>
      if name == pointKeys then
        match more with
        | [(0x06, curve)] => point? curve bytes
        | _ => none
      else if name == productKeys then
        match sequence? bytes with
        | some [(0x02, n), (0x02, _)] => some (.product (number n))
        | _ => none
      else if name == twistedKeys then
        if more.isEmpty && bytes.length = twistedSize then some (.twisted bytes) else none
      else some (.other name)
    | _ => none
  | _ => none

/-- The year that two digits stand for. -/
def fullYear (n : Nat) : Nat := if n < 69 then 2000 + n else 1900 + n

/-- A zone: `Z` for none, or a sign with hours and minutes. -/
def isZone : Text → Bool
  | [0x5a] => true
  | sign :: digits =>
    (sign = 0x2b || sign = Text.dash) && digits.length = 4 && Text.isDigits digits && 0 < Text.digitsValue digits &&
      Text.digitsValue (digits.take 2) ≤ 24 && Text.digitsValue (digits.drop 2) < 60
  | [] => false

/-- A time with a year of some digits, which may leave out its seconds if the year has two. -/
def isStamp (yearSize : Nat) (s : Text) : Bool :=
  let written := Text.digitsValue (s.take yearSize)
  let year := if yearSize = 2 then fullYear written else written
  let digits := (s.drop yearSize).takeWhile Text.isDigit
  let pair (i : Nat) : Nat := Text.digitsValue ((digits.drop (2 * i)).take 2)
  (s.take yearSize).all Text.isDigit && (digits.length = 10 || (yearSize = 2 && digits.length = 8)) &&
    1 ≤ pair 0 && pair 0 ≤ 12 && 1 ≤ pair 1 && pair 1 ≤ Calendar.daysIn year (pair 0) &&
    pair 2 < 24 && pair 3 < 60 && pair 4 < 60 && isZone (s.drop (yearSize + digits.length))

def isTime (e : Element) : Bool := (e.1 = 0x17 && isStamp 2 e.2) || (e.1 = 0x18 && isStamp 4 e.2)

/-- The time span of a certificate: two times. -/
def isSpan (content : Text) : Bool :=
  match elements? content with
  | some [a, b] => isTime a && isTime b
  | _ => false

/-- A number that is not negative, without needless zeros in front. -/
def isCount : Text → Bool
  | [] => false
  | [b] => b < 0x80
  | a :: b :: _ => a < 0x80 && (a ≠ 0 || 0x80 ≤ b)

/-- The parts of a certificate behind its version, signed in a way that is named again outside. -/
def bodyKey? (way : Text) : List Element → Option Key
  | (0x02, serial) :: (0x30, named) :: (0x30, _) :: (0x30, span) :: (0x30, _) :: (0x30, key) :: more =>
    if isCount serial && named == way && isSpan span &&
        more.all fun e => [0x81, 0x82, 0xa1, 0xa2, 0xa3].contains e.1 then
      publicKey? key
    else none
  | _ => none

/-- The version of a certificate: the first to the third. -/
def isVersion (content : Text) : Bool := [[0x02, 0x01, 0], [0x02, 0x01, 1], [0x02, 0x01, 2]].contains content

def keyOf? (certificate : Text) : Option Key := do
  match ← sequence? certificate with
  | [(0x30, body), (0x30, way), (0x03, _)] =>
    match ← elements? body with
    | (0xa0, version) :: rest => if isVersion version then bodyKey? way rest else none
    | parts => bodyKey? way parts
  | _ => none

/-- The public key of a secret number on a curve. -/
def secretPoint? (curve secret : Text) : Option Key := do
  let c ← Curve.named? curve
  if c.order ≤ number secret then none
  some (.point curve (← c.multiple (number secret)))

/-- The public key of a private key with a secret number; the curve is named in it or around it. -/
def pointSecret? (around : Option Text) (content : Text) : Option Key :=
  match sequence? content with
  | some ((0x02, [1]) :: (0x04, secret) :: more) =>
    let inside := (more.lookup 0xa0).bind fun curve =>
      match elements? curve with
      | some [(0x06, name)] => some name
      | _ => none
    (around.or inside).bind fun curve => secretPoint? curve secret
  | _ => none

/-- The public key of a private key of two primes. -/
def productSecret? (content : Text) : Option Key :=
  match sequence? content with
  | some ((0x02, [version]) :: (0x02, n) :: (0x02, _) :: (0x02, _) :: (0x02, p) :: (0x02, q) :: _) =>
    if version = 0 && number p * number q = number n then some (.product (number n)) else none
  | _ => none

def seedSecret? (content : Text) : Option Key :=
  match elements? content with
  | some [(0x04, seed)] =>
    if seed.length = twistedSize then some (.twisted (Curve.Twisted.publicKey seed)) else none
  | _ => none

/-- The public key of a private key that says of which kind it is. -/
def kindSecret? (content : Text) : Option Key :=
  match sequence? content with
  | some ((0x02, _) :: (0x30, kind) :: (0x04, secret) :: _) =>
    match elements? kind with
    | some ((0x06, name) :: more) =>
      if name == pointKeys then
        match more with
        | [(0x06, curve)] => pointSecret? (some curve) secret
        | _ => pointSecret? none secret
      else if name == productKeys then productSecret? secret
      else if name == twistedKeys && more.isEmpty then seedSecret? secret
      else none
    | _ => none
  | _ => none

/-- The public key of a private key. -/
def secretOf? (content : Text) : Option Key :=
  (productSecret? content).or ((kindSecret? content).or (pointSecret? none content))

/-! ## files -/

def certificates (file : Text) : List Block :=
  (blocks file).filter fun b => b.label == Text.ofString "CERTIFICATE"

def isCertificateFile (file : Text) : Bool :=
  (certificates file).any fun b => b.headers.isEmpty && (keyOf? b.content).isSome

/-- A block that holds a private key as it is. -/
def isSecret (b : Block) : Bool :=
  (b.label == Text.ofString "PRIVATE KEY" || Text.endsWith b.label " PRIVATE KEY") &&
    !b.headers.any fun h => Text.startsWith h "DEK-Info"

/-- The first certificate of a file has the public key of the private key of another file. -/
def isKeyPair (certificateFile keyFile : Text) : Bool :=
  match certificates certificateFile, blocks keyFile with
  | certificate :: _, secret :: _ =>
    isSecret secret && (keyOf? certificate.content).isSome &&
      keyOf? certificate.content == secretOf? secret.content
  | _, _ => false

end CastAudit.Certificate
