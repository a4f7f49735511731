import CastAudit.Text.Decimal
import CastAudit.Text.Quoted

/-!
# Flags

A command is told what to do by flags: `--name value`, `--name=value`, or a single letter as in
`-n value` and `-nvalue`. Switches take no value, so their letters can be run together. `Flag.read`
reads the arguments from left to right and stops at the first that is wrong; arguments that are no flags
are passed over, and after `--` there are no more flags.
-/

namespace CastAudit.Command

/-- What a flag takes. -/
inductive FlagType where
  | text
  | number
  /-- True when given without a value. -/
  | switch
deriving Repr, BEq, DecidableEq, Inhabited

/-- A flag of a command. -/
structure Flag where
  name : Text
  letter : Option UInt8 := none
  type : FlagType := .text
  /-- The command cannot do without it. -/
  required : Bool := false
deriving Repr, BEq, DecidableEq, Inhabited

/-- The value of a flag. -/
inductive Value where
  | text (value : Text)
  | number (value : Int)
  | switch (value : Bool)
deriving Repr, BEq, DecidableEq, Inhabited

/-- The flags that were given, in order, with their values. -/
abbrev Given := List (Text × Value)

/-- What is wrong with the arguments. -/
inductive UsageError where
  | badFlag (argument : Text)
  | unknownFlag (name : Text)
  | unknownLetter (letter : UInt8) (letters : Text)
  | noValue (argument : Text)
  | noLetterValue (letter : UInt8) (letters : Text)
  | badNumber (flag : Flag) (value : Text) (why : Text.NumberError)
  | badSwitch (flag : Flag) (value : Text)
  | missingFlags (names : List Text)
  | unknownCommand (name program : Text) (similar : List Text)
deriving Repr, BEq, DecidableEq, Inhabited

namespace Flag

/-- The name of a flag as messages tell it. -/
def title (f : Flag) : Text :=
  match f.letter with
  | some c => "-" ++ [c] ++ ", --" ++ f.name
  | none => "--" ++ f.name

/-- The switch positions and their spellings. -/
def switchOf? (s : Text) : Option Bool :=
  if (["1", "t", "T", "TRUE", "true", "True"].map Text.ofString).contains s then some true
  else if (["0", "f", "F", "FALSE", "false", "False"].map Text.ofString).contains s then some false
  else none

def give (f : Flag) (value : Text) : Except UsageError (Text × Value) :=
  match f.type with
  | .text => .ok (f.name, .text value)
  | .number =>
    match Text.readMarkedInt64 value with
    | .ok n => .ok (f.name, .number n)
    | .error why => .error (.badNumber f value why)
  | .switch =>
    match switchOf? value with
    | some b => .ok (f.name, .switch b)
    | none => .error (.badSwitch f value)

/-- The value of a switch that is given without one. -/
abbrev turnedOn : Text := "true"

/-! ## one argument -/

/-- What an argument says. -/
inductive Reading where
  /-- Flags with their values, or none at all. -/
  | given (flags : Given)
  /-- Flags with their values and one that takes the next argument; without one the error holds. -/
  | awaits (flags : Given) (flag : Flag) (otherwise : UsageError)
  /-- All later arguments are no flags. -/
  | finish
deriving Repr, BEq, DecidableEq, Inhabited

/-- The flags of a run of letters, after those that came before. -/
def readLetters (flags : List Flag) (before : Given) : Text → Except UsageError Reading
  | [] => .ok (.given before)
  | c :: more =>
    -- these are flags for test programs and left to them
    if Text.startsWith (c :: more) "test." then .ok (.given before)
    else match flags.find? fun f => f.letter == some c with
      | none => .error (.unknownLetter c (c :: more))
      | some f =>
        -- behind `=` stands the value, unless `=` is all that follows the letter
        if 1 < more.length && more.head? == some 0x3d then
          (f.give more.tail).map fun g => .given (before ++ [g])
        else if f.type == .switch then
          match f.give turnedOn with
          | .ok g => readLetters flags (before ++ [g]) more
          | .error e => .error e
        else if more.isEmpty then .ok (.awaits before f (.noLetterValue c (c :: more)))
        else (f.give more).map fun g => .given (before ++ [g])

/-- The flag of an argument that starts with two hyphens. -/
def readLong (flags : List Flag) (argument : Text) : Except UsageError Reading :=
  let body := argument.drop 2
  if body.head? == some Text.dash || body.head? == some 0x3d then .error (.badFlag argument)
  else
    let (name, value) := match Text.cut? body "=" with
      | some (name, value) => (name, some value)
      | none => (body, none)
    match flags.find? fun f => f.name == name with
    | none => .error (.unknownFlag name)
    | some f =>
      match value with
      | some v => (f.give v).map fun g => .given [g]
      | none =>
        if f.type == .switch then (f.give turnedOn).map fun g => .given [g]
        else .ok (.awaits [] f (.noValue argument))

/-- What one argument says. A lone hyphen is no flag. -/
def readArgument (flags : List Flag) (argument : Text) : Except UsageError Reading :=
  match argument with
  | 0x2d :: 0x2d :: [] => .ok .finish
  | 0x2d :: 0x2d :: _ => readLong flags argument
  | 0x2d :: c :: more => readLetters flags [] (c :: more)
  | _ => .ok (.given [])

/-! ## all arguments -/

/-- The flags of some arguments; `awaiting` is the flag that takes the first of them. -/
def readFrom (flags : List Flag) : Option (Flag × UsageError) → List Text → Except UsageError Given
  | none, [] => .ok []
  | some (_, e), [] => .error e
  | some (f, _), argument :: rest => do
    let g ← f.give argument
    let gs ← readFrom flags none rest
    .ok (g :: gs)
  | none, argument :: rest => do
    match ← readArgument flags argument with
    | .given before => .ok (before ++ (← readFrom flags none rest))
    | .awaits before f e => .ok (before ++ (← readFrom flags (some (f, e)) rest))
    | .finish => .ok []

/-- The flags that are given among some arguments. -/
def read (flags : List Flag) (arguments : List Text) : Except UsageError Given := readFrom flags none arguments

end Flag

namespace Given

/-- The value of a flag; one given twice has its last value. -/
def value? (g : Given) (name : String) : Option Value := g.reverse.lookup (Text.ofString name)

def text? (g : Given) (name : String) : Option Text :=
  match value? g name with
  | some (.text t) => some t
  | _ => none

def number? (g : Given) (name : String) : Option Int :=
  match value? g name with
  | some (.number n) => some n
  | _ => none

def switch? (g : Given) (name : String) : Option Bool :=
  match value? g name with
  | some (.switch b) => some b
  | _ => none

/-- The text of a flag, or what it is without. -/
def text (g : Given) (name : String) (default : Text) : Text := (text? g name).getD default

def isOn (g : Given) (name : String) : Bool := switch? g name == some true

end Given

/-! ## messages -/

namespace UsageError

def numberReason : Text.NumberError → Text
  | .malformed => "invalid syntax"
  | .outOfRange _ => "value out of range"

/-- The message for a value that a flag cannot take. -/
def badValue (flag : Flag) (value reading reason : Text) : Text :=
  "invalid argument " ++ Text.quoted value ++ " for " ++ Text.quoted flag.title ++ " flag: " ++ reading ++
    ": parsing " ++ Text.quoted value ++ ": " ++ reason

/-- The similar names that a message offers. -/
def offer (similar : List Text) : Text :=
  if similar.isEmpty then [] else "\n\nDid you mean this?\n" ++ Text.unlines (similar.map (Text.tab :: ·))

def message : UsageError → Text
  | badFlag a => "bad flag syntax: " ++ a
  | unknownFlag n => "unknown flag: --" ++ n
  | unknownLetter c s => "unknown shorthand flag: " ++ Text.quotedByte c ++ " in -" ++ s
  | noValue a => "flag needs an argument: " ++ a
  | noLetterValue c s => "flag needs an argument: " ++ Text.quotedByte c ++ " in -" ++ s
  | badNumber f v why => badValue f v "strconv.ParseInt" (numberReason why)
  | badSwitch f v => badValue f v "strconv.ParseBool" "invalid syntax"
  | missingFlags names => "required flag(s) \"" ++ Text.join "\", \"" names ++ "\" not set"
  | unknownCommand n program similar =>
    "unknown command " ++ Text.quoted n ++ " for " ++ Text.quoted program ++ offer similar

end UsageError

end CastAudit.Command
