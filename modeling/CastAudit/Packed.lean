import CastAudit.Digest
import CastAudit.Text.Decimal

/-!
# Packed values

The binary form in which scan results are kept on disk: MessagePack. A value starts with a head that
tells its type and size; numbers and sizes take the shortest head, and any head that can carry a number
is read. `Head.read?` takes a head off, `skip?` passes over whole values.
-/

namespace CastAudit.Packed

/-! ## writing -/

/-- A non-negative number. -/
def writeNat (n : Nat) : Text :=
  if n < 0x80 then [n.toUInt8]
  else if n < 0x100 then 0xcc :: Digest.bigEndian 1 n
  else if n < 0x10000 then 0xcd :: Digest.bigEndian 2 n
  else if n < 0x100000000 then 0xce :: Digest.bigEndian 4 n
  else 0xcf :: Digest.bigEndian 8 n

/-- The bytes of a negative number in two's complement. -/
def complement (width : Nat) (i : Int) : Text := Digest.bigEndian width (i + Nat.pow 256 width).toNat

/-- A signed number. -/
def writeInt (i : Int) : Text :=
  if 0 ≤ i then writeNat i.toNat
  else if -0x20 ≤ i then complement 1 i
  else if -0x80 ≤ i then 0xd0 :: complement 1 i
  else if -0x8000 ≤ i then 0xd1 :: complement 2 i
  else if -0x80000000 ≤ i then 0xd2 :: complement 4 i
  else 0xd3 :: complement 8 i

/-- A number of sixteen bits, always with its own head. -/
def writeWord (n : Nat) : Text := 0xcd :: Digest.bigEndian 2 n

/-- A byte string. -/
def writeText (s : Text) : Text :=
  let n := s.length
  (if n < 0x20 then [(0xa0 + n).toUInt8]
   else if n < 0x100 then 0xd9 :: Digest.bigEndian 1 n
   else if n < 0x10000 then 0xda :: Digest.bigEndian 2 n
   else 0xdb :: Digest.bigEndian 4 n) ++ s

def listHead (n : Nat) : Text :=
  if n < 0x10 then [(0x90 + n).toUInt8]
  else if n < 0x10000 then 0xdc :: Digest.bigEndian 2 n
  else 0xdd :: Digest.bigEndian 4 n

/-- The value that stands for nothing. -/
abbrev nothing : Text := [0xc0]

/-- A list of values; `none` is nothing at all. -/
def writeList {α : Type} (write : α → Text) : Option (List α) → Text
  | none => nothing
  | some xs => listHead xs.length ++ xs.flatMap write

/-- A map with fewer than sixteen named values. -/
def writeMap (fields : List (String × Text)) : Text :=
  (0x80 + fields.length).toUInt8 :: fields.flatMap fun f => writeText f.1 ++ f.2

/-! ## reading -/

/-- The head of a value. -/
inductive Head where
  | nothing
  /-- A number, already read. -/
  | number (value : Int)
  /-- Text or bytes of a length. -/
  | bytes (length : Nat)
  | list (length : Nat)
  | map (length : Nat)
  /-- A value of another type that takes `length` more bytes. -/
  | skipped (length : Nat)
deriving Repr, BEq, DecidableEq, Inhabited

/-- The value of big-endian bytes. -/
def natOf (s : Text) : Nat := s.foldl (fun n b => n * 256 + b.toNat) 0

/-- The value of big-endian bytes in two's complement. -/
def intOf (s : Text) : Int := Int.bmod (natOf s) (Nat.pow 256 s.length)

/-- The first `n` bytes and the rest, if there are so many. -/
def takeBytes? (n : Nat) (s : Text) : Option (Text × Text) :=
  let front := s.take n
  if front.length = n then some (front, s.drop n) else none

/-- The head at the front of a text, and what follows it. -/
def Head.read? : Text → Option (Head × Text)
  | [] => none
  | c :: rest =>
    let sized (width : Nat) (f : Text → Head) : Option (Head × Text) :=
      (takeBytes? width rest).map fun p => (f p.1, p.2)
    let n := c.toNat
    -- small values stand in the head itself
    if n < 0x80 then some (.number n, rest)
    else if n < 0x90 then some (.map (n - 0x80), rest)
    else if n < 0xa0 then some (.list (n - 0x90), rest)
    else if n < 0xc0 then some (.bytes (n - 0xa0), rest)
    else if 0xe0 ≤ n then some (.number (n - 256), rest)
    else match n with
      | 0xc0 => some (.nothing, rest)
      | 0xc2 | 0xc3 => some (.skipped 0, rest)
      | 0xc4 | 0xd9 => sized 1 fun s => .bytes (natOf s)
      | 0xc5 | 0xda => sized 2 fun s => .bytes (natOf s)
      | 0xc6 | 0xdb => sized 4 fun s => .bytes (natOf s)
      -- values of a foreign type have one more byte, which says what type that is
      | 0xc7 => sized 1 fun s => .skipped (natOf s + 1)
      | 0xc8 => sized 2 fun s => .skipped (natOf s + 1)
      | 0xc9 => sized 4 fun s => .skipped (natOf s + 1)
      -- fractions are not asked for by any field
      | 0xca => some (.skipped 4, rest)
      | 0xcb => some (.skipped 8, rest)
      | 0xcc => sized 1 fun s => .number (natOf s)
      | 0xcd => sized 2 fun s => .number (natOf s)
      | 0xce => sized 4 fun s => .number (natOf s)
      | 0xcf => sized 8 fun s => .number (natOf s)
      | 0xd0 => sized 1 fun s => .number (intOf s)
      | 0xd1 => sized 2 fun s => .number (intOf s)
      | 0xd2 => sized 4 fun s => .number (intOf s)
      | 0xd3 => sized 8 fun s => .number (intOf s)
      -- values of a foreign type again, of a fixed size
      | 0xd4 => some (.skipped 2, rest)
      | 0xd5 => some (.skipped 3, rest)
      | 0xd6 => some (.skipped 5, rest)
      | 0xd7 => some (.skipped 9, rest)
      | 0xd8 => some (.skipped 17, rest)
      | 0xdc => sized 2 fun s => .list (natOf s)
      | 0xdd => sized 4 fun s => .list (natOf s)
      | 0xde => sized 2 fun s => .map (natOf s)
      | 0xdf => sized 4 fun s => .map (natOf s)
      | _ => none

/-- Passes over `values` values; every head takes a byte, so `fuel` bounds their number. -/
def skipFrom (fuel values : Nat) (s : Text) : Option Text :=
  match fuel, values with
  | _, 0 => some s
  | 0, _ + 1 => none
  | fuel + 1, values + 1 => do
    let (head, rest) ← Head.read? s
    match head with
    | .nothing | .number _ => skipFrom fuel values rest
    | .bytes n | .skipped n =>
      let (_, rest) ← takeBytes? n rest
      skipFrom fuel values rest
    | .list n => skipFrom fuel (values + n) rest
    | .map n => skipFrom fuel (values + 2 * n) rest

/-- Passes over one value. -/
def skip? (s : Text) : Option Text := skipFrom s.length 1 s

/-- A signed 64-bit number; nothing reads as zero. -/
def int? (s : Text) : Option (Int × Text) := do
  match ← Head.read? s with
  | (.nothing, rest) => some (0, rest)
  | (.number i, rest) => some (Text.wrap64 i, rest)
  | _ => none

/-- A number of sixteen bits, high bits dropped; nothing reads as zero. -/
def word? (s : Text) : Option (Nat × Text) := do
  let (i, rest) ← int? s
  some ((i % 0x10000).toNat, rest)

/-- A text; nothing reads as the empty one. -/
def text? (s : Text) : Option (Text × Text) := do
  match ← Head.read? s with
  | (.nothing, rest) => some ([], rest)
  | (.bytes n, rest) => takeBytes? n rest
  | _ => none

/-- A field of a structure: its name and how its value is read into the structure. -/
structure FieldReader (α : Type) where
  name : Text
  read? : α → Text → Option (α × Text)

/-- `count` named values read into a structure. Unknown names are passed over. -/
def fields? {α : Type} (readers : List (FieldReader α)) : Nat → α → Text → Option (α × Text)
  | 0, a, s => some (a, s)
  | count + 1, a, s => do
    let (name, rest) ← text? s
    match readers.find? fun r => r.name == name with
    | some r =>
      let (a, rest) ← r.read? a rest
      fields? readers count a rest
    | none => fields? readers count a (← skip? rest)

/-- The values of all fields in order, without names. -/
def positional? {α : Type} (readers : List (FieldReader α)) (a : α) (s : Text) : Option (α × Text) :=
  readers.foldlM (fun (st : α × Text) r => r.read? st.1 st.2) (a, s)

/-- A structure over a base: a map of named fields, or a list of exactly all fields. Nothing and the
empty list give the blank structure. -/
def compound? {α : Type} (readers : List (FieldReader α)) (blank base : α) (s : Text) : Option (α × Text) := do
  match ← Head.read? s with
  | (.nothing, rest) => some (blank, rest)
  | (.map n, rest) => fields? readers n base rest
  | (.list n, rest) =>
    if n = 0 then some (blank, rest)
    else if n = readers.length then positional? readers base rest
    else none
  | _ => none

/-- `count` structures over the ones that stood in their places before, `found` last first. -/
def elements? {α : Type} (read? : α → Text → Option (α × Text)) (blank : α) :
    Nat → List α → List α → Text → Option (List α × Text)
  | 0, _, found, s => some (found.reverse, s)
  | count + 1, before, found, s => do
    let (a, rest) ← read? (before.headD blank) s
    elements? read? blank count before.tail (a :: found) rest

/-- A list of structures; nothing reads as no list. -/
def list? {α : Type} (read? : α → Text → Option (α × Text)) (blank : α) (before : List α)
    (s : Text) : Option (Option (List α) × Text) := do
  match ← Head.read? s with
  | (.nothing, rest) => some (none, rest)
  | (.list n, rest) =>
    let (xs, rest) ← elements? read? blank n before [] rest
    some (some xs, rest)
  | _ => none

/-- The structures over which the next list is read: the new ones, and the older ones in the places behind
them. No list leaves none. -/
def places {α : Type} (before : List α) : Option (List α) → List α
  | none => []
  | some xs => xs ++ before.drop xs.length

end CastAudit.Packed
