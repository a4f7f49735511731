import CastAudit.Internet
import CastAudit.Text.Case

/-!
# URLs

Taking a URL apart into scheme, user, host, path, query and fragment, putting one together again, and
following a reference from one URL to another.

Escapes in every part must be whole, a host holds no blank or slash, what it holds in brackets is an internet
address, and a port is digits. A path and a fragment are kept without their escapes, and also as they were
written where that is not the usual way.
-/

namespace CastAudit

/-- The parts of a URL. -/
structure Url where
  scheme : Text := []
  /-- What follows the scheme when it does not start with a slash. -/
  bare : Text := []
  user : Option (Text × Option Text) := none
  host : Text := []
  /-- Behind the scheme comes a path without the two slashes of a host. -/
  omitsHost : Bool := false
  path : Text := []
  /-- The path as it was written, empty if that is the usual way. -/
  writtenPath : Text := []
  /-- A question mark without a query. -/
  asksNothing : Bool := false
  query : Text := []
  fragment : Text := []
  /-- The fragment as it was written, empty if that is the usual way. -/
  writtenFragment : Text := []
deriving Repr, BEq, DecidableEq, Inhabited

namespace Url

/-! ## escapes -/

/-- The part of a URL whose escapes are spoken of. -/
inductive Part where
  | user
  | host
  /-- The zone of an internet address. -/
  | zone
  | path
  /-- A part in which `+` stands for a space. -/
  | query
  | fragment
deriving Repr, BEq, DecidableEq, Inhabited

/-- A byte that may stand in every part as it is. -/
def isFree (b : UInt8) : Bool := Text.isLetter b || Text.isDigit b || (Text.ofString "-_.~").contains b

/-- The other bytes that may stand in a part as they are. -/
def extras : Part → Text
  | .user => "$&+,;="
  | .host | .zone => "!$&'()*+,;=:[]<>\""
  | .path => "$&+,/:;=@"
  | .query => ""
  | .fragment => "$&+,/:;=?@!()*"

def standsIn (part : Part) (b : UInt8) : Bool := isFree b || (extras part).contains b

/-- An escaped byte that may stand in a part. In a host only bytes outside ASCII and `%25` may. -/
def escapeFits (part : Part) (value : Nat) : Bool :=
  match part with
  | .host => 0x80 ≤ value || value = 0x25
  | .zone => value = 0x25 || value = 0x20 || standsIn .host value.toUInt8
  | _ => true

/-- The text with its escapes replaced, `seen` last first. -/
def unescapeFrom (part : Part) (seen : Text) : Text → Option Text
  | [] => some seen.reverse
  | 0x25 :: a :: b :: rest =>
    let value := Text.hexValue a * 16 + Text.hexValue b
    if Text.isHexDigit a && Text.isHexDigit b && escapeFits part value then
      unescapeFrom part (value.toUInt8 :: seen) rest
    else none
  | b :: rest =>
    if b = 0x25 then none
    else if (part == .host || part == .zone) && b < 0x80 && !standsIn part b then none
    else unescapeFrom part ((if b = 0x2b && part == .query then Text.space else b) :: seen) rest

/-- The text with its escapes replaced. -/
def unescape? (part : Part) (s : Text) : Option Text := unescapeFrom part [] s

/-- A hexadecimal digit in upper case. -/
def hexDigit (n : Nat) : UInt8 := if n < 10 then (0x30 + n).toUInt8 else (0x37 + n).toUInt8

/-- The text with escapes for all bytes that cannot stand in a part. -/
def escape (part : Part) (s : Text) : Text :=
  s.flatMap fun b => if standsIn part b then [b] else [0x25, hexDigit (b.toNat / 16), hexDigit (b.toNat % 16)]

/-- A text with escapes that may be left as it was written. -/
def isWritten (part : Part) (s : Text) : Bool :=
  s.all fun b => standsIn part b || (Text.ofString "!$&'()*+,;=:@[]%").contains b

/-- A part as it is written: as it was, if that still says the same, else in the usual way. -/
def write (part : Part) (written value : Text) : Text :=
  if !written.isEmpty && isWritten part written && unescape? part written == some value then written
  else escape part value

/-- What is kept of the way a part was written. -/
def writtenAs (part : Part) (written value : Text) : Text := if escape part value == written then [] else written

/-- The URL with a path that is given with its escapes. -/
def withPath? (u : Url) (written : Text) : Option Url :=
  (unescape? .path written).map fun path => { u with path, writtenPath := writtenAs .path written path }

/-- The URL with a fragment that is given with its escapes. -/
def withFragment? (u : Url) (written : Text) : Option Url :=
  (unescape? .fragment written).map fun fragment =>
    { u with fragment, writtenFragment := writtenAs .fragment written fragment }

/-! ## parts -/

/-- The text around the last occurrence of a byte. -/
def cutLast? (s : Text) (b : UInt8) : Option (Text × Text) :=
  if s.contains b then
    let tail := s.reverse.takeWhile (· ≠ b)
    some (s.take (s.length - tail.length - 1), tail.reverse)
  else none

/-- The scheme and what follows it, `seen` last first. Without a scheme the whole text follows; an empty
scheme is refused. -/
def schemeFrom (whole seen : Text) : Text → Option (Text × Text)
  | [] => some ([], whole)
  | b :: rest =>
    if Text.isLetter b then schemeFrom whole (b :: seen) rest
    else if Text.isDigit b || b = 0x2b || b = Text.dash || b = Text.dot then
      if seen.isEmpty then some ([], whole) else schemeFrom whole (b :: seen) rest
    else if b = 0x3a then
      if seen.isEmpty then none else some (seen.reverse, rest)
    else some ([], whole)

/-- Nothing, or a colon and digits. -/
def isPort : Text → Bool
  | [] => true
  | b :: rest => b = 0x3a && rest.all Text.isDigit

/-- The internet address that a host holds in brackets, without its escapes. -/
def bracketed? (s : Text) : Option Text := do
  let address ← match Text.cut? s "%25" with
    | some (address, zone) => do some ((← unescape? .host address) ++ (← unescape? .zone ("%25" ++ zone)))
    | none => unescape? .host s
  if Internet.isZonedAddress address then some address else none

def host? (s : Text) : Option Text :=
  match cutLast? s 0x5b with
  | some ([], inside) => do
    let (inside, port) ← cutLast? inside 0x5d
    if !isPort port then none
    some (0x5b :: (← bracketed? inside) ++ 0x5d :: port)
  | some (_ :: _, _) => none
  | none =>
    match cutLast? s 0x3a with
    | some (_, port) => if port.all Text.isDigit then unescape? .host s else none
    | none => unescape? .host s

/-- A byte that may stand in the user part. -/
def isUserByte (b : UInt8) : Bool :=
  Text.isLetter b || Text.isDigit b || (Text.ofString "-._:~!$&'()*+,;=%@").contains b

/-- The user and password of a user part. -/
def user? (s : Text) : Option (Text × Option Text) :=
  if !s.all isUserByte then none
  else match Text.cut? s ":" with
    | none => (unescape? .user s).map fun u => (u, none)
    | some (name, password) => do
      let name ← unescape? .user name
      let password ← unescape? .user password
      some (name, some password)

/-- A URL with its user and host read from an authority. -/
def withAuthority? (u : Url) (authority : Text) : Option Url :=
  match cutLast? authority 0x40 with
  | none => (host? authority).map fun h => { u with host := h }
  | some (user, host) => do
    let host ← host? host
    let user ← user? user
    some { u with host, user := some user }

def isControl (b : UInt8) : Bool := b < 0x20 || b = 0x7f

/-- The text before the query, the query, and whether there is only its question mark. -/
def cutQuery (s : Text) : Text × Text × Bool :=
  match Text.cut? s "?" with
  | none => (s, [], false)
  | some (front, []) => (front, [], true)
  | some (front, query) => (front, query, false)

/-- A URL without its fragment. -/
def body? (s : Text) : Option Url := do
  if s.any isControl then none
  if s == [0x2a] then return { path := s }
  let (scheme, rest) ← schemeFrom s [] s
  let (rest, query, asksNothing) := cutQuery rest
  let u : Url := { scheme := Text.lower scheme, query, asksNothing }
  if rest.head? != some Text.slash then
    if !scheme.isEmpty then return { u with bare := rest }
    -- a colon in the first part would make it a scheme
    if (rest.takeWhile (· ≠ Text.slash)).contains 0x3a then none
  if Text.startsWith rest "//" && (!scheme.isEmpty || !Text.startsWith rest "///") then
    let authority := (rest.drop 2).takeWhile (· ≠ Text.slash)
    let u ← withAuthority? u authority
    u.withPath? (rest.drop (2 + authority.length))
  else withPath? { u with omitsHost := !scheme.isEmpty } rest

def parse? (s : Text) : Option Url :=
  match Text.cut? s "#" with
  | none => body? s
  | some (front, []) => body? front
  | some (front, fragment) => (body? front).bind fun u => u.withFragment? fragment

/-! ## writing -/

/-- How the path is written. -/
def pathText (u : Url) : Text :=
  if u.path == [0x2a] && u.writtenPath.isEmpty then u.path else write .path u.writtenPath u.path

/-- How the user is written. -/
def userText : Option (Text × Option Text) → Text
  | none => []
  | some (name, none) => escape .user name ++ [0x40]
  | some (name, some password) => escape .user name ++ [0x3a] ++ escape .user password ++ [0x40]

/-- How the user and the host are written, with the slashes before them. -/
def authorityText (u : Url) : Text :=
  if u.host.isEmpty && u.user.isNone && (u.scheme.isEmpty || u.omitsHost || u.path.isEmpty) then []
  else "//" ++ userText u.user ++ escape .host u.host

/-- How the parts between scheme and query are written. A path that could be taken for a scheme gets a
full stop before it. -/
def middleText (u : Url) : Text :=
  if !u.bare.isEmpty then u.bare
  else
    let path := u.pathText
    let authority := authorityText u
    let isRelative := path.head?.any (· ≠ Text.slash)
    authority ++ (if isRelative && !u.host.isEmpty then [Text.slash] else []) ++
      (if u.scheme.isEmpty && authority.isEmpty && (path.takeWhile (· ≠ Text.slash)).contains 0x3a then
         [Text.dot, Text.slash]
       else []) ++ path

def toText (u : Url) : Text :=
  (if u.scheme.isEmpty then [] else u.scheme ++ [0x3a]) ++ middleText u ++
    (if u.asksNothing || !u.query.isEmpty then 0x3f :: u.query else []) ++
    (if u.fragment.isEmpty then [] else 0x23 :: write .fragment u.writtenFragment u.fragment)

/-! ## references -/

/-- One step along a path to the places above it, innermost first: `..` goes up, a full stop stays. -/
def walk (above : List Text) (step : Text) : List Text :=
  if step == [Text.dot] then above
  else if step == [Text.dot, Text.dot] then above.drop 1
  else step :: above

/-- The path without its steps to where it already is and upwards. It starts with one slash. -/
def straighten (path : Text) : Text :=
  if path.isEmpty then []
  else
    let steps := Text.splitOn (Text.chopPrefix path [Text.slash]) [Text.slash]
    let last := steps.getLastD []
    let walked := (steps.foldl walk []).reverse
    let isOpen := last == [Text.dot] || last == [Text.dot, Text.dot]
    Text.slash :: Text.join [Text.slash] walked ++ (if isOpen && !walked.isEmpty then [Text.slash] else [])

/-- The path that a reference leads to from another path. -/
def pathFrom (base reference : Text) : Text :=
  straighten (
    if reference.isEmpty then base
    else if reference.head? == some Text.slash then reference
    else match cutLast? base Text.slash with
      | some (front, _) => front ++ Text.slash :: reference
      | none => reference)

/-- Where a reference leads from a URL. -/
def resolve (base reference : Url) : Url :=
  let u := { reference with scheme := if reference.scheme.isEmpty then base.scheme else reference.scheme }
  let withPath (u : Url) (path : Text) : Url := (u.withPath? path).getD u
  if !reference.scheme.isEmpty || !reference.host.isEmpty || reference.user.isSome then
    withPath u (straighten reference.pathText)
  else if !reference.bare.isEmpty then { u with user := none, host := [], path := [] }
  else
    let isEmpty := reference.path.isEmpty && !reference.asksNothing && reference.query.isEmpty
    -- an empty reference leads to the base itself
    let u := if isEmpty then { u with query := base.query } else u
    let u := if isEmpty && reference.fragment.isEmpty then
        { u with fragment := base.fragment, writtenFragment := base.writtenFragment }
      else u
    if reference.path.isEmpty && !base.bare.isEmpty then
      { u with bare := base.bare, user := none, host := [], path := [] }
    else
      withPath { u with host := base.host, user := base.user } (pathFrom base.pathText reference.pathText)

/-- A text that leads somewhere: it has a scheme and a host, a fragment or a bare part. A file URL needs
no more than a path. -/
def isLink (s : Text) : Bool :=
  let s := Text.small s
  if Text.startsWith s "file:/" && (body? s).isSome then true
  else match parse? s with
    | none => false
    | some u => !u.scheme.isEmpty && !(u.host.isEmpty && u.fragment.isEmpty && u.bare.isEmpty)

end Url

end CastAudit
