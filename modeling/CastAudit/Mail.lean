import CastAudit.Internet
import CastAudit.Text.Base64
import CastAudit.Text.Case

/-!
# Mail addresses

Which texts name one mail address: `user@host`, with a comment behind it or not, a name and the address in
angle brackets, or a named group of one address. Words of a name can be written in another character set;
such a word is an error where a set is asked for that nobody knows.
-/

namespace CastAudit.Mail

/-! ## bytes -/

def skipBlanks (s : Text) : Text := s.dropWhile fun b => b = Text.space || b = Text.tab

/-- A byte that is seen, outside ASCII always. -/
def isVisible (b : UInt8) : Bool := 0x21 ≤ b && b ≠ 0x7f

/-- A byte of a word without quotes. -/
def isWordByte (b : UInt8) : Bool := isVisible b && !(Text.ofString "()<>[]:;@\\,\"").contains b

/-! ## words in other character sets -/

def characterSets : List Text := ["utf-8", "iso-8859-1", "us-ascii"]

/-- A text in which `=` and two hexadecimal digits stand for a byte. -/
def isQuoted : Text → Bool
  | [] => true
  | 0x3d :: a :: b :: rest => Text.isHexDigit a && Text.isHexDigit b && isQuoted rest
  | b :: rest =>
    b ≠ 0x3d && ((0x20 ≤ b && b ≤ 0x7e) || b = Text.lf || b = Text.cr || b = Text.tab) && isQuoted rest

/-- A word that is written in a character set that nobody knows. -/
def isUnreadable (word : Text) : Bool :=
  match Text.splitOn word "?" with
  | [[0x3d], set, [way], content, [0x3d]] =>
    let isWritten := match Text.lowerByte way with
      | 0x62 => (Text.fromBase64? content).isSome
      | 0x71 => isQuoted content
      | _ => false
    !set.isEmpty && isWritten && !characterSets.any fun known => Text.sameLetters known set
  | _ => false

/-! ## comments -/

/-- The rest of a comment of some depth, `seen` last first, and what follows it. -/
def commentFrom (depth : Nat) (seen : Text) : Text → Option (Text × Text)
  | [] => none
  | 0x5c :: b :: rest => commentFrom depth (b :: seen) rest
  | b :: rest =>
    if b = 0x28 then commentFrom (depth + 1) (b :: seen) rest
    else if b ≠ 0x29 then commentFrom depth (b :: seen) rest
    else if depth = 0 then some (seen.reverse, rest)
    else commentFrom (depth - 1) (b :: seen) rest

/-- The text after blanks and comments. Every comment takes a byte, so `fuel` bounds them. -/
def skipCommentsFrom (fuel : Nat) (s : Text) : Option Text :=
  match fuel with
  | 0 => none
  | fuel + 1 =>
    match skipBlanks s with
    | 0x28 :: rest => (commentFrom 0 [] rest).bind fun c => skipCommentsFrom fuel c.2
    | s => some s

/-- The text after blanks and comments. -/
def skipComments? (s : Text) : Option Text := skipCommentsFrom (s.length + 1) s

/-- The pieces of a text between blanks. -/
def words (s : Text) : List Text :=
  (Text.splitOn (s.map fun b => if b = Text.tab then Text.space else b) " ").filter fun w => !w.isEmpty

/-- The text after a comment that names the owner of an address. -/
def skipOwner? (s : Text) : Option Text :=
  match skipBlanks s with
  | 0x28 :: rest =>
    (commentFrom 0 [] rest).bind fun (comment, rest) =>
      if (words comment).any isUnreadable then none else some rest
  | s => some s

/-! ## addresses -/

/-- The content of a quoted string behind its opening quote, last first, and what follows it. -/
def quotedFrom (seen : Text) : Text → Option (Text × Text)
  | [] => none
  | 0x5c :: b :: rest =>
    if isVisible b || b = Text.space || b = Text.tab then quotedFrom (b :: seen) rest else none
  | b :: rest =>
    if b = Text.quote then some (seen, rest)
    else if b ≠ Text.backslash && (isVisible b || b = Text.space || b = Text.tab) then quotedFrom (b :: seen) rest
    else none

/-- The text behind words with full stops between. -/
def skipDotted? (s : Text) : Option Text :=
  let front := s.takeWhile isWordByte
  if (Text.splitOn front ".").any List.isEmpty then none else some (s.dropWhile isWordByte)

/-- The text behind the user of an address. -/
def skipUser? : Text → Option Text
  | 0x22 :: rest =>
    match quotedFrom [] rest with
    | some (_ :: _, rest) => some rest
    | _ => none
  | s => skipDotted? s

/-- The text behind the host of an address: words, or an internet address in brackets. -/
def skipHost? : Text → Option Text
  | 0x5b :: rest =>
    match Text.cut? rest "]" with
    | some (address, rest) => if Internet.isAddress address then some rest else none
    | none => none
  | s => skipDotted? s

/-- The text behind a bare address. -/
def skipBare? (s : Text) : Option Text :=
  match skipUser? (skipBlanks s) with
  | some (0x40 :: rest) => skipHost? (skipBlanks rest)
  | _ => none

/-- The text behind the words of a name. Every word takes a byte, so `fuel` bounds them. Whatever is no
word ends the name, unless nothing came before. -/
def skipNameFrom (fuel : Nat) (isFirst : Bool) (s : Text) : Option Text :=
  match fuel with
  | 0 => none
  | fuel + 1 =>
    match if isFirst then some s else skipComments? s with
    | none => none
    | some s =>
      let s := skipBlanks s
      -- a name needs at least one word
      let ended (rest : Text) : Option Text := if isFirst then none else some rest
      match s with
      | 0x22 :: rest =>
        match quotedFrom [] rest with
        | some (_, rest) => skipNameFrom fuel false rest
        | none => ended s
      | s =>
        let word := s.takeWhile isWordByte
        let rest := s.dropWhile isWordByte
        if word.isEmpty then ended s
        else if isUnreadable word then ended rest
        else skipNameFrom fuel false rest

/-- The text behind the name before an address, which may be left out. -/
def skipName? (s : Text) : Option Text :=
  if s.head? == some 0x3c then some s else (skipNameFrom (s.length + 1) true s).map skipBlanks

/-- The text behind an address in angle brackets. -/
def skipAngled? : Text → Option Text
  | 0x3c :: rest =>
    match skipBare? rest with
    | some (0x3e :: rest) => some rest
    | _ => none
  | _ => none

/-- The text behind an address with or without a name. -/
def skipMailbox? (s : Text) : Option Text :=
  let s := skipBlanks s
  match skipBare? s with
  | some rest => skipOwner? rest
  | none => (skipName? s).bind skipAngled?

/-- The text behind a group of one address, from its members on. -/
def skipGroup? (s : Text) : Option Text :=
  match (skipMailbox? s).bind skipComments? with
  | some (0x3b :: rest) => some rest
  | _ => none

/-- The text behind an address or a group of one address. -/
def skipAddress? (s : Text) : Option Text :=
  let s := skipBlanks s
  match skipBare? s with
  | some rest => skipOwner? rest
  | none =>
    match skipName? s with
    | some (0x3a :: rest) => skipGroup? rest
    | some rest => skipAngled? rest
    | none => none

def isAddress (s : Text) : Bool := (skipAddress? s).bind skipComments? == some []

end CastAudit.Mail
