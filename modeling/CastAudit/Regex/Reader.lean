import CastAudit.Regex
import CastAudit.Text.Decimal

/-!
# Reading regular expressions

The written form of an expression: literal characters, `.`, classes in brackets, groups, alternatives,
the repetitions `*`, `+`, `?` and counts in curly brackets, edges, and escapes. A repetition needs something
to repeat and does not directly follow another; a question mark behind one changes nothing about what matches.
Repetitions within repetitions may not multiply beyond `maxCount`, and an expression may be neither too deep
nor too large.
-/

namespace CastAudit.Regex

open Character (CharSet isWithin)

/-- The settings that a group can change. -/
structure Options where
  /-- Letters match in either case. -/
  anyCase : Bool := false
  /-- `^` and `$` stand for the edges of lines. -/
  lines : Bool := false
  /-- `.` stands for a line feed, too. -/
  dotAll : Bool := false
deriving Repr, BEq, DecidableEq, Inhabited

/-! ## classes by name -/

/-- The set with all forms of its letters, if their case does not count. -/
def widened (options : Options) (set : CharSet) : CharSet :=
  if options.anyCase then fun c => (Character.variants c).any set else set

/-- The set or, turned round, all other characters. -/
def turned (negative : Bool) (set : CharSet) : CharSet := if negative then fun c => !set c else set

def digitRanges : List (Nat × Nat) := [(0x30, 0x39)]

def blankRanges : List (Nat × Nat) := [(0x09, 0x0a), (0x0c, 0x0d), (0x20, 0x20)]

/-- The set of a class letter behind a backslash; a capital letter turns it round. -/
def letterClass? (options : Options) (c : Nat) : Option CharSet :=
  if c = 0x64 || c = 0x44 then some (turned (c = 0x44) (widened options (isWithin digitRanges)))
  else if c = 0x73 || c = 0x53 then some (turned (c = 0x53) (widened options (isWithin blankRanges)))
  else if c = 0x77 || c = 0x57 then some (turned (c = 0x57) (widened options (isWithin wordRanges)))
  else none

def codesOf (s : String) : List Nat := s.toList.map Char.toNat

/-- The classes with a name between colons. -/
def namedClasses : List (List Nat × List (Nat × Nat)) :=
  [(codesOf "alnum", [(0x30, 0x39), (0x41, 0x5a), (0x61, 0x7a)]), (codesOf "alpha", [(0x41, 0x5a), (0x61, 0x7a)]),
   (codesOf "ascii", [(0, 0x7f)]), (codesOf "blank", [(0x09, 0x09), (0x20, 0x20)]),
   (codesOf "cntrl", [(0, 0x1f), (0x7f, 0x7f)]), (codesOf "digit", digitRanges), (codesOf "graph", [(0x21, 0x7e)]),
   (codesOf "lower", [(0x61, 0x7a)]), (codesOf "print", [(0x20, 0x7e)]),
   (codesOf "punct", [(0x21, 0x2f), (0x3a, 0x40), (0x5b, 0x60), (0x7b, 0x7e)]),
   (codesOf "space", [(0x09, 0x0d), (0x20, 0x20)]), (codesOf "upper", [(0x41, 0x5a)]),
   (codesOf "word", wordRanges), (codesOf "xdigit", [(0x30, 0x39), (0x41, 0x46), (0x61, 0x66)])]

/-- The set of a class with a name between colons, which may be turned round by `^`. -/
def namedClass? (options : Options) (name : List Nat) : Option CharSet :=
  let negative := name.head? == some 0x5e
  (namedClasses.lookup (if negative then name.tail else name)).map fun ranges =>
    turned negative (widened options (isWithin ranges))

/-- The set of a class of Unicode, which may be turned round by `^`. -/
def unicodeClass? (options : Options) (negative : Bool) (name : List Nat) : Option CharSet :=
  let negates := name.head? == some 0x5e
  let name := if negates then name.tail else name
  (Character.classOf? (name.flatMap Text.encode)).map fun set =>
    turned (negative != negates) (widened options set)

/-- A class of Unicode behind a backslash: `p` or `P` and a letter or a name in curly brackets. The
answer is empty if there is no such class, and holds `none` if there is none of that name. -/
def property? (options : Options) : List Nat → Option (Option (CharSet × List Nat))
  | c :: rest =>
    if c = 0x70 || c = 0x50 then
      some <| match rest with
        | 0x7b :: rest =>
          let name := rest.takeWhile (· ≠ 0x7d)
          if name.length < rest.length then
            (unicodeClass? options (c = 0x50) name).map fun set => (set, rest.drop (name.length + 1))
          else none
        | letter :: rest => (unicodeClass? options (c = 0x50) [letter]).map fun set => (set, rest)
        | [] => none
    else none
  | [] => none

/-! ## escapes -/

def isDigit (c : Nat) : Bool := 0x30 ≤ c && c ≤ 0x39

def isOctal (c : Nat) : Bool := 0x30 ≤ c && c ≤ 0x37

def isAlphanumeric (c : Nat) : Bool := isDigit c || (0x41 ≤ c && c ≤ 0x5a) || (0x61 ≤ c && c ≤ 0x7a)

/-- The value of a hexadecimal digit. -/
def hexDigit? (c : Nat) : Option Nat :=
  if isDigit c then some (c - 0x30)
  else if 0x41 ≤ c && c ≤ 0x46 then some (c - 0x37)
  else if 0x61 ≤ c && c ≤ 0x66 then some (c - 0x57)
  else none

/-- The greatest character code. -/
abbrev maxCode : Nat := 0x10ffff

/-- The value of hexadecimal digits. -/
def hexCode? (digits : List Nat) : Option Nat := do
  if digits.isEmpty then none
  let value ← digits.foldlM (fun n c => (hexDigit? c).map (n * 16 + ·)) 0
  if value ≤ maxCode then some value else none

def letterEscape? (c : Nat) : Option Nat :=
  if c = 0x61 then some 0x07
  else if c = 0x66 then some 0x0c
  else if c = 0x6e then some 0x0a
  else if c = 0x72 then some 0x0d
  else if c = 0x74 then some 0x09
  else if c = 0x76 then some 0x0b
  else none

/-- The character of an escape behind its backslash, and what follows it. -/
def escape? : List Nat → Option (Nat × List Nat)
  | [] => none
  | 0x78 :: 0x7b :: rest => do
    let code ← hexCode? (rest.takeWhile (· ≠ 0x7d))
    match rest.dropWhile (· ≠ 0x7d) with
    | _ :: rest => some (code, rest)
    | [] => none
  | 0x78 :: rest => do
    if rest.length < 2 then none
    some (← hexCode? (rest.take 2), rest.drop 2)
  | c :: rest =>
    if isOctal c then
      -- a single digit other than zero would refer to a group
      if c = 0x30 || rest.head?.any isOctal then
        let digits := c :: (rest.take 2).takeWhile isOctal
        some (digits.foldl (fun n d => n * 8 + (d - 0x30)) 0, rest.drop (digits.length - 1))
      else none
    else match letterEscape? c with
      | some code => some (code, rest)
      | none => if c < 0x80 && !isAlphanumeric c then some (c, rest) else none

/-! ## classes in brackets -/

def classChar? : List Nat → Option (Nat × List Nat)
  | [] => none
  | c :: rest => if c = 0x5c then escape? rest else some (c, rest)

/-- The name of a class behind its bracket and colon, last first, and what follows its end, if it has one. -/
def className? (seen : List Nat) : List Nat → Option (List Nat × List Nat)
  | 0x3a :: 0x5d :: rest => some (seen, rest)
  | c :: rest => className? (c :: seen) rest
  | [] => none

/-- A single character or a range at the front of a class. -/
def classRange? (options : Options) (s : List Nat) : Option (CharSet × List Nat) := do
  let (low, rest) ← classChar? s
  match rest with
  | 0x2d :: c :: more =>
    if c = 0x5d then some (widened options (isWithin [(low, low)]), rest)
    else do
      let (high, rest) ← classChar? (c :: more)
      if high < low then none else some (widened options (isWithin [(low, high)]), rest)
  | _ => some (widened options (isWithin [(low, low)]), rest)

/-- The characters at the front of a class. -/
def classItem? (options : Options) (s : List Nat) : Option (CharSet × List Nat) :=
  match s with
  | 0x5b :: 0x3a :: rest =>
    match className? [] rest with
    | some (name, rest) => (namedClass? options name.reverse).map fun set => (set, rest)
    | none => classRange? options s
  | 0x5c :: c :: rest =>
    match property? options (c :: rest), letterClass? options c with
    | some item, _ => item
    | none, some set => some (set, rest)
    | none, none => classRange? options s
  | _ => classRange? options s

/-- The items of a class up to its closing bracket, which may stand for itself at the very start. Every
item takes a character, so `fuel` bounds their number. -/
def classFrom (options : Options) (fuel : Nat) (first : Bool) (seen : List CharSet) (s : List Nat) :
    Option (List CharSet × List Nat) :=
  match fuel with
  | 0 => none
  | fuel + 1 =>
    if s.head? == some 0x5d && !first then some (seen, s.tail)
    else do
      let (set, rest) ← classItem? options s
      classFrom options fuel false (set :: seen) rest

/-- A class behind its opening bracket. -/
def class? (options : Options) (s : List Nat) : Option (Regex × List Nat) := do
  let negative := s.head? == some 0x5e
  let (sets, rest) ← classFrom options (s.length + 1) true [] (if negative then s.tail else s)
  some (char (turned negative fun c => sets.any fun set => set c), rest)

/-! ## repetitions -/

/-- The greatest count of a repetition. -/
abbrev maxCount : Nat := 1000

/-- The value of a run of digits. -/
def countOf (digits : List Nat) : Nat := digits.foldl (fun n d => n * 10 + (d - 0x30)) 0

/-- A count without needless zeros, and what follows it. -/
def count? (s : List Nat) : Option (Nat × List Nat) :=
  let digits := s.takeWhile isDigit
  if digits.isEmpty || (1 < digits.length && digits.head? == some 0x30) then none
  else some (countOf digits, s.dropWhile isDigit)

/-- The bounds of a counted repetition behind its opening bracket, and what follows it. Anything else in
curly brackets stands for itself. -/
def bounds? (s : List Nat) : Option (Nat × Option Nat × List Nat) := do
  let (least, rest) ← count? s
  match rest with
  | 0x7d :: rest => some (least, some least, rest)
  | 0x2c :: 0x7d :: rest => some (least, none, rest)
  | 0x2c :: rest =>
    let (most, rest) ← count? rest
    match rest with
    | 0x7d :: rest => some (least, some most, rest)
    | _ => none
  | _ => none

/-- The repetition sign at the front of a text with its bounds, and what follows it. -/
def sign? : List Nat → Option (Nat × Option Nat × List Nat)
  | [] => none
  | c :: rest =>
    if c = 0x2a then some (0, none, rest)
    else if c = 0x2b then some (1, none, rest)
    else if c = 0x3f then some (0, some 1, rest)
    else if c = 0x7b then bounds? rest
    else none

/-- The bounds can be met. -/
def boundsFit (least : Nat) (most : Option Nat) : Bool :=
  least ≤ maxCount && most.all fun m => m ≤ maxCount && least ≤ m

/-- The repetitions in an expression multiply to no more than `room`. -/
def countsFit (room : Nat) : Regex → Bool
  | repeated r least most =>
    if most = some 0 then true
    else
      let count := most.getD least
      count ≤ room && countsFit (if count = 0 then room else room / count) r
  | seq a b | either a b => countsFit room a && countsFit room b
  | group r => countsFit room r
  | blank | literal _ _ | char _ | edge _ => true

/-- An expression with a repetition of its own. -/
def repeat? (r : Regex) (least : Nat) (most : Option Nat) : Option Regex :=
  let result := repeated r least most
  if boundsFit least most && (most.getD least < 2 || countsFit maxCount result) then some result else none

/-! ## size -/

/-- How deep an expression is by itself, and as a part of a sequence or an alternative around it. -/
structure Depth where
  own : Nat
  inSeq : Nat
  inEither : Nat

def depth : Regex → Depth
  | blank | literal _ _ | char _ | edge _ => ⟨1, 1, 1⟩
  | seq a b =>
    let inner := Nat.max (depth a).inSeq (depth b).inSeq
    ⟨inner + 1, inner, inner + 1⟩
  | either a b =>
    let inner := Nat.max (depth a).inEither (depth b).inEither
    ⟨inner + 1, inner + 1, inner⟩
  | repeated r _ _ | group r =>
    let own := (depth r).own + 1
    ⟨own, own, own⟩

/-- The greatest depth of an expression. -/
abbrev maxDepth : Nat := 1000

/-- The number of parts of an expression. -/
def parts : Regex → Nat
  | blank | literal _ _ | char _ | edge _ => 1
  | seq a b | either a b => parts a + parts b
  | repeated r _ _ | group r => parts r + 1

/-- The product of all counts of repetitions in an expression. -/
def product : Regex → Nat
  | blank | literal _ _ | char _ | edge _ => 1
  | seq a b | either a b => product a * product b
  | repeated r least most => Nat.max 1 (most.getD least) * product r
  | group r => product r

/-- The number of steps that an expression is taken to need. -/
def size : Regex → Nat
  | blank | char _ | edge _ => 1
  | literal codes _ => Nat.max 1 codes.length
  | seq a b => size a + size b
  | either a b => size a + size b + 1
  | repeated r least none => if least = 0 then size r + 2 else least * size r + 1
  | repeated r least (some most) => Nat.max 1 (most * size r + (most - least))
  | group r => size r + 2

/-- The greatest number of steps. -/
abbrev maxSize : Nat := 3355443

/-- The expression is neither too deep nor too large. -/
def isModest (r : Regex) : Bool := (depth r).own ≤ maxDepth && (parts r * product r < maxSize || size r ≤ maxSize)

/-! ## expressions -/

/-- The options behind the question mark of a group, up to the colon or bracket that ends them; `named` tells
whether an option was named since the start or the hyphen. A hyphen must be followed by one. -/
def optionsFrom (on named : Bool) (options : Options) : List Nat → Option (Options × List Nat)
  | [] => none
  | c :: rest =>
    if c = 0x3a || c = 0x29 then if on || named then some (options, c :: rest) else none
    else if c = 0x2d && on then optionsFrom false false options rest
    else if c = 0x69 then optionsFrom on true { options with anyCase := on } rest
    else if c = 0x6d then optionsFrom on true { options with lines := on } rest
    else if c = 0x73 then optionsFrom on true { options with dotAll := on } rest
    else if c = 0x55 then optionsFrom on true options rest
    else none

/-- What stands behind the name of a group. -/
def groupName? (s : List Nat) : Option (List Nat) :=
  let name := s.takeWhile (· ≠ 0x3e)
  if !name.isEmpty && name.all fun c => isAlphanumeric c || c = 0x5f then
    match s.drop name.length with
    | _ :: rest => some rest
    | [] => none
  else none

/-- How a group starts, behind its bracket. -/
inductive Opening where
  /-- A group with its own options, which a reader may refer to or not. -/
  | inner (kept : Bool) (options : Options) (inner : List Nat)
  /-- Options for the rest of the group around. -/
  | setting (options : Options) (after : List Nat)

/-- The start of a group. -/
def opening? (options : Options) : List Nat → Option Opening
  | 0x3f :: 0x50 :: 0x3c :: rest => (groupName? rest).map (.inner true options)
  | 0x3f :: 0x3c :: rest => (groupName? rest).map (.inner true options)
  | 0x3f :: rest => do
    match ← optionsFrom true false options rest with
    | (options, 0x3a :: rest) => some (.inner false options rest)
    | (options, _ :: rest) => some (.setting options rest)
    | _ => none
  | rest => some (.inner true options rest)

def single (options : Options) (c : Nat) : Regex := literal [c] options.anyCase

def edgeOf? (c : Nat) : Option Edge :=
  if c = 0x41 then some .textStart
  else if c = 0x7a then some .textEnd
  else if c = 0x62 then some .wordEdge
  else if c = 0x42 then some .noWordEdge
  else none

/-- An expression behind a backslash. -/
def escaped? (options : Options) (s : List Nat) : Option (Regex × List Nat) :=
  match s with
  | [] => none
  | c :: rest =>
    match edgeOf? c, property? options s, letterClass? options c with
    | some e, _, _ => some (edge e, rest)
    | none, some item, _ => item.map fun (set, rest) => (char set, rest)
    | none, none, some set => some (char set, rest)
    | none, none, none => (escape? s).map fun (c, rest) => (single options c, rest)

/-- An expression that is no group. -/
def atom? (options : Options) (c : Nat) (rest : List Nat) : Option (Regex × List Nat) :=
  if c = 0x5b then class? options rest
  else if c = 0x5c then escaped? options rest
  else if c = 0x2e then some (char fun code => options.dotAll || code ≠ 0x0a, rest)
  else if c = 0x5e then some (edge (if options.lines then .lineStart else .textStart), rest)
  else if c = 0x24 then some (edge (if options.lines then .lineEnd else .textEnd), rest)
  else some (single options c, rest)

/-- The characters up to `\E` behind a `\Q`, last first, and what follows. -/
def verbatimFrom (seen : List Nat) : List Nat → List Nat × List Nat
  | 0x5c :: 0x45 :: rest => (seen, rest)
  | c :: rest => verbatimFrom (c :: seen) rest
  | [] => (seen, [])

/-- One expression after the other; neighbouring characters of the same kind are joined. -/
def andThen : Regex → Regex → Regex
  | blank, r | r, blank => r
  | literal a anyCase, literal b anyCase' =>
    if anyCase = anyCase' then literal (a ++ b) anyCase else seq (literal a anyCase) (literal b anyCase')
  | a, b => seq a b

/-- What is read of a group so far. -/
structure Line where
  /-- The alternatives that are complete. -/
  done : Option Regex := none
  /-- The parts of the one under way, last first. -/
  items : List Regex := []
  /-- A repetition was read last. -/
  isRepeated : Bool := false

namespace Line

/-- One more part. -/
def add (l : Line) (r : Regex) : Line := { l with items := r :: l.items, isRepeated := false }

/-- The expression read so far. -/
def close (l : Line) : Regex :=
  let last := l.items.foldl (fun rest r => andThen r rest) blank
  match l.done with
  | none => last
  | some r => either r last

def next (l : Line) : Line := { done := some l.close }

/-- The last part with a repetition. -/
def repeat? (l : Line) (least : Nat) (most : Option Nat) : Option Line :=
  match l.items with
  | r :: rest =>
    if l.isRepeated then none
    else (Regex.repeat? r least most).map fun r => { l with items := r :: rest, isRepeated := true }
  | [] => none

end Line

/-- The rest of a group up to its closing bracket or the end. Every step takes a character, so `fuel` bounds
the steps. -/
def groupFrom (fuel : Nat) (options : Options) (line : Line) (s : List Nat) : Option (Regex × List Nat) :=
  match fuel with
  | 0 => none
  | fuel + 1 =>
    match s with
    | [] => some (line.close, [])
    | 0x5c :: 0x51 :: rest =>
      let (seen, rest) := verbatimFrom [] rest
      groupFrom fuel options (seen.foldr (fun c line => line.add (single options c)) { line with isRepeated := false }) rest
    | c :: rest =>
      if c = 0x29 then some (line.close, s)
      else if c = 0x7c then groupFrom fuel options line.next rest
      else if c = 0x28 then
        match opening? options rest with
        | none => none
        | some (.setting options rest) => groupFrom fuel options { line with isRepeated := false } rest
        | some (.inner kept inner rest) =>
          match groupFrom fuel inner {} rest with
          | some (r, 0x29 :: rest) => groupFrom fuel options (line.add (if kept then group r else r)) rest
          | _ => none
      else
        match sign? s with
        | some (least, most, rest) =>
          match line.repeat? least most with
          -- a question mark behind a sign asks for few repetitions, which makes no difference to whether there is a match
          | some line => groupFrom fuel options line (if rest.head? == some 0x3f then rest.tail else rest)
          | none => none
        | none =>
          match atom? options c rest with
          | some (r, rest) => groupFrom fuel options (line.add r) rest
          | none => none

/-- The expression that a text writes. -/
def parse? (s : Text) : Option Regex :=
  let codes := (Text.pieces s).map Text.Piece.code
  match groupFrom (codes.length + 1) {} {} codes with
  | some (r, []) => if isModest r then some r else none
  | _ => none

end CastAudit.Regex
