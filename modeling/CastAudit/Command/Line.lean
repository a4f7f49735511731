import CastAudit.Command.Flag
import CastAudit.Text.Case

/-!
# The command line

The six commands with their flags, and how the arguments of the program name one of them. The first
argument that is neither a flag nor the value of one names the command; the rest are read by its flags.
A name that no command has is answered with the names of similar commands.
-/

namespace CastAudit.Command

/-- The name of the program. -/
abbrev program : Text := "convscan"

/-- What the program does. -/
inductive Action where
  | count
  | linestats
  | patterns
  | rank
  | retry
  | scan
deriving Repr, BEq, DecidableEq, Inhabited

namespace Action

/-- The actions in the order of their names. -/
def all : List Action := [count, linestats, patterns, rank, retry, scan]

def name : Action → Text
  | count => "count"
  | linestats => "linestats"
  | patterns => "patterns"
  | rank => "rank"
  | retry => "retry"
  | scan => "scan"

end Action

/-! ## flags -/

def letter (c : Char) : Option UInt8 := some c.toNat.toUInt8

/-- The flags of the program itself. -/
def commonFlags : List Flag := [{ name := "config" }, { name := "verbose", letter := letter 'v', type := .switch }]

def helpFlag : Flag := { name := "help", letter := letter 'h', type := .switch }

def Action.ownFlags : Action → List Flag
  | count =>
    [{ name := "root", letter := letter 'r', required := true }, { name := "report-name" },
     { name := "out", letter := letter 'o' }, { name := "format" }]
  | linestats => [{ name := "input", letter := letter 'i', required := true }]
  | patterns =>
    [{ name := "records", letter := letter 'i', required := true }, { name := "out", letter := letter 'o' },
     { name := "format" }, { name := "top", type := .number }]
  | rank =>
    [{ name := "stars", letter := letter 's' }, { name := "metadata", letter := letter 'm' },
     { name := "records", letter := letter 'i' }, { name := "buggy-only", type := .switch },
     { name := "out", letter := letter 'o' }, { name := "format" }]
  | retry =>
    [{ name := "failures", letter := letter 'f', required := true }, { name := "out", letter := letter 'o' },
     { name := "profile", letter := letter 'p' }, { name := "jobs", letter := letter 'j', type := .number },
     { name := "database-url" }, { name := "summary" }]
  | scan =>
    [{ name := "root", letter := letter 'r' }, { name := "listing", letter := letter 'l' },
     { name := "profile", letter := letter 'p' }, { name := "log-name" },
     { name := "jobs", letter := letter 'j', type := .number }, { name := "out", letter := letter 'o' },
     { name := "failures" }, { name := "fresh", type := .switch }, { name := "cache-dir" },
     { name := "database-url" }, { name := "summary" }]

def Action.flags (a : Action) : List Flag := a.ownFlags ++ commonFlags ++ [helpFlag]

/-! ## similar names -/

/-- The next row of the table of edit distances: `above` is the row before from the place to the left on,
`left` the entry just made. -/
def distanceRow (c : UInt8) (left : Nat) : List Nat → Text → List Nat
  | corner :: up :: above, d :: word =>
    let here := Nat.min (Nat.min (left + 1) (up + 1)) (if c = d then corner else corner + 1)
    here :: distanceRow c here (up :: above) word
  | _, _ => []

/-- The least number of bytes to put in, take out or change between two words. -/
def editDistance (s t : Text) : Nat :=
  let row := s.foldl (fun row c => (row.headD 0 + 1) :: distanceRow c (row.headD 0 + 1) row t)
    (List.range (t.length + 1))
  row.getLastD 0

/-- The greatest distance at which names are similar. -/
abbrev similarDistance : Nat := 2

/-- A name is similar to what was typed in letters of either case: by a small distance or as a longer
form of it. -/
def isSimilar (typed name : Text) : Bool :=
  editDistance (Text.small typed) name ≤ similarDistance || Text.startsWith name (Text.small typed)

/-- The names that are offered for what was typed. -/
def similarNames (typed : Text) : List Text :=
  (Action.all.map Action.name ++ [Text.ofString "completion"]).filter (isSimilar typed)

/-! ## naming a command -/

/-- The argument is a flag whose value is the argument after it, as far as can be told before the command
is known. -/
def takesNext (argument : Text) : Bool :=
  let isSwitch (p : Flag → Bool) : Bool := commonFlags.any fun f => p f && f.type == .switch
  !argument.contains 0x3d &&
    match argument with
    | 0x2d :: 0x2d :: name => !isSwitch fun f => f.name == name
    | [0x2d, c] => !isSwitch fun f => f.letter == some c
    | _ => false

def isPlain (argument : Text) : Bool := argument.head? != some Text.dash

/-- The arguments before the name of the command, last first, the name, and the arguments after it. The
value of a flag is never the name, nor is the last argument if a flag stands before it. -/
def splitAtName (before : List Text) : List Text → Option (List Text × Text × List Text)
  | [] => none
  | [argument] => if isPlain argument && !argument.isEmpty then some (before, argument, []) else none
  | argument :: next :: rest =>
    if argument == [Text.dash, Text.dash] then none
    else if takesNext argument then
      if rest.isEmpty then none else splitAtName (next :: argument :: before) rest
    else if isPlain argument && !argument.isEmpty then some (before, argument, next :: rest)
    else splitAtName (argument :: before) (next :: rest)

/-- What the arguments ask for. -/
inductive Request where
  | help
  | perform (action : Action) (given : Given)
deriving Repr, BEq, DecidableEq, Inhabited

/-- The names of the required flags that are not given. -/
def missingNames (flags : List Flag) (given : Given) : List Text :=
  (flags.filter fun f => f.required && (given.lookup f.name).isNone).map Flag.name

def requestFor (action : Action) (arguments : List Text) : Except UsageError Request := do
  let given ← Flag.read action.flags arguments
  if given.isOn "help" then .ok .help
  else match missingNames action.flags given with
    | [] => .ok (.perform action given)
    | names => .error (.missingFlags names)

/-- Words that ask for help in place of a command. -/
def helpWords : List Text := ["help", "completion"]

/-- The shells that help with typing commands. -/
def shells : List Text := ["bash", "fish", "powershell", "zsh"]

/-- The flags of a word that asks for help with some arguments. -/
def helpFlags (word : Text) (arguments : List Text) : List Flag :=
  let isForShell := (splitAtName [] arguments).any fun (_, name, _) => shells.contains name
  let own : List Flag :=
    if word == Text.ofString "completion" && isForShell then [{ name := "no-descriptions", type := .switch }] else []
  own ++ commonFlags ++ [helpFlag]

def helpFor (word : Text) (arguments : List Text) : Except UsageError Request :=
  (Flag.read (helpFlags word arguments) arguments).map fun _ => .help

/-- What the arguments of the program ask for. -/
def request (arguments : List Text) : Except UsageError Request :=
  match splitAtName [] arguments with
  | none => (Flag.read (commonFlags ++ [helpFlag]) arguments).map fun _ => .help
  | some (before, name, after) =>
    match Action.all.find? fun a => a.name == name with
    | some action => requestFor action (before.reverse ++ after)
    | none =>
      if helpWords.contains name then helpFor name (before.reverse ++ after)
      else .error (.unknownCommand name program (similarNames name))

end CastAudit.Command
