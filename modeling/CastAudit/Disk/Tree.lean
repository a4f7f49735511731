import CastAudit.Disk.Host
import CastAudit.Text.Decimal

/-!
# A tree of files

A file system in memory. A place in the tree is the list of its names, innermost first, so that a name
in front of a directory's place is the place of its child. A file refers to a numbered content: an open
file keeps its content when the name is taken away or given to another file.
-/

namespace CastAudit.Disk

/-- What a place in the tree holds. -/
inductive Node where
  | directory
  /-- A file with the number of its content. -/
  | file (content : Nat)
  /-- A device without content, which takes or refuses all that is written to it. -/
  | device (accepts : Bool)
deriving Repr, BEq, DecidableEq, Inhabited

/-- The names that lead to a place, innermost first. -/
abbrev Place := List Text

/-- A file system. The root directory is not among `nodes`. -/
structure Tree where
  nodes : List (Place × Node) := []
  contents : Array Text := #[]
  /-- The working directory; it may have been removed. -/
  current : Place := []
  /-- The contents that cannot be read, and why. -/
  unreadable : List (Nat × Refusal) := []
  /-- The directories in which no name can be made or taken away, and why. -/
  unwritable : List (Place × Refusal) := []
deriving Repr, BEq, Inhabited

/-- A file open for appending: the path that it was opened under and what it writes to. -/
structure OpenFile where
  path : Text
  node : Node
deriving Repr, BEq, DecidableEq, Inhabited

/-- Where a path leads: to something there, or to a free name in a directory. -/
inductive Target where
  | present (place : Place) (node : Node)
  | free (parent : Place) (name : Text)
deriving Repr, BEq, DecidableEq, Inhabited

namespace Tree

/-- The greatest length of a name. -/
abbrev maxName : Nat := 255

/-- The greatest length of a path. -/
abbrev maxPath : Nat := 4095

/-- What a place holds. -/
def node? (t : Tree) (place : Place) : Option Node :=
  if place.isEmpty then some .directory else t.nodes.lookup place

/-- Follows the parts of a path from a place. Names are looked up, `.` and empty parts stay, `..` goes
up, and only the last name may be free. -/
def follow (t : Tree) (place : Place) (node : Node) : List Text → Except Refusal Target
  | [] => .ok (.present place node)
  | part :: rest =>
    if node ≠ .directory then .error .notDirectory
    else if part.isEmpty || part == Path.here then follow t place node rest
    else if part == Path.above then follow t place.tail .directory rest
    else if part.length > maxName then .error .nameTooLong
    else match t.node? (part :: place) with
      | some n => follow t (part :: place) n rest
      -- slashes may follow a free name
      | none => if rest.all List.isEmpty then .ok (.free place part) else .error .notFound

/-- Where a path leads. -/
def locate (t : Tree) (path : Text) : Except Refusal Target :=
  if path.isEmpty then .error .notFound
  else if path.contains 0 then .error .invalidArgument
  else if path.length > maxPath then .error .nameTooLong
  else follow t (if Path.isAbsolute path then [] else t.current) .directory (Path.parts path)

def content (t : Tree) (number : Nat) : Text := t.contents.getD number []

def put (t : Tree) (place : Place) (node : Node) : Tree :=
  { t with nodes := (place, node) :: t.nodes.filter fun e => e.1 != place }

/-- The tree without a place and all that is below it. -/
def erase (t : Tree) (place : Place) : Tree :=
  { t with nodes := t.nodes.filter fun e => !place.isSuffixOf e.1 }

/-- The tree with a new file, whose content has the next number. -/
def createFile (t : Tree) (place : Place) (content : Text) : Tree :=
  { t.put place (.file t.contents.size) with contents := t.contents.push content }

def setContent (t : Tree) (number : Nat) (content : Text) : Tree :=
  { t with contents := t.contents.setIfInBounds number content }

/-- Why no name can be made or taken away in a directory. -/
def refusal? (t : Tree) (directory : Place) : Option Refusal :=
  if t.node? directory = some .directory then t.unwritable.lookup directory else some .notFound

def pathOf (place : Place) : Text := Text.slash :: Text.join [Text.slash] place.reverse

/-- The whole content of a file. Opening a directory succeeds, reading it does not. -/
def readFile (t : Tree) (path : Text) : Except Error Text :=
  match t.locate path with
  | .error w => .error (.onPath .opening path w)
  | .ok (.free _ _) => .error (.onPath .opening path .notFound)
  | .ok (.present _ .directory) => .error (.onPath .reading path .isDirectory)
  | .ok (.present _ (.file n)) =>
    match t.unreadable.lookup n with
    | some w => .error (.onPath .opening path w)
    | none => .ok (t.content n)
  | .ok (.present _ (.device _)) => .ok []

/-- What stands at a path. -/
def inspect (t : Tree) (path : Text) : Except Error FileKind :=
  match t.locate path with
  | .error w => .error (.onPath .inspecting path w)
  | .ok (.free _ _) => .error (.onPath .inspecting path .notFound)
  | .ok (.present _ .directory) => .ok .directory
  | .ok (.present _ _) => .ok .other

def children (t : Tree) (place : Place) : List DirectoryEntry :=
  t.nodes.filterMap fun e =>
    match e.1 with
    | name :: above => if above == place then some ⟨name, e.2 == .directory⟩ else none
    | [] => none

/-- The names in a directory, sorted. A working directory that was removed can still be opened. -/
def listDirectory (t : Tree) (path : Text) : Except Error (List DirectoryEntry) :=
  match t.locate path with
  | .error w => .error (.onPath .opening path w)
  | .ok (.free _ _) => .error (.onPath .opening path .notFound)
  | .ok (.present place .directory) =>
    if (t.node? place).isSome then .ok ((t.children place).mergeSort fun a b => !Text.before b.name a.name)
    else .error (.onPath .listing path .notFound)
  | .ok (.present _ _) => .error (.onPath .opening path .notDirectory)

def makeDirectory (t : Tree) (path : Text) : Except Error Unit × Tree :=
  match t.locate path with
  | .error w => (.error (.onPath .makingDirectory path w), t)
  | .ok (.present _ _) => (.error (.onPath .makingDirectory path .alreadyExists), t)
  | .ok (.free parent name) =>
    match t.refusal? parent with
    | some w => (.error (.onPath .makingDirectory path w), t)
    | none => (.ok (), t.put (name :: parent) .directory)

def openAppend (t : Tree) (path : Text) (fresh : Bool) : Except Error OpenFile × Tree :=
  match t.locate path with
  | .error w => (.error (.onPath .opening path w), t)
  | .ok (.present _ .directory) => (.error (.onPath .opening path .isDirectory), t)
  | .ok (.present _ (.file n)) => (.ok ⟨path, .file n⟩, if fresh then t.setContent n [] else t)
  | .ok (.present _ (.device a)) => (.ok ⟨path, .device a⟩, t)
  | .ok (.free parent name) =>
    match t.refusal? parent with
    | some w => (.error (.onPath .opening path w), t)
    | none => (.ok ⟨path, .file t.contents.size⟩, t.createFile (name :: parent) [])

/-- Appends to an open file. Nothing to write never fails. -/
def append (t : Tree) (file : OpenFile) (bytes : Text) : Except Error Unit × Tree :=
  if bytes.isEmpty then (.ok (), t)
  else match file.node with
    | .file n => (.ok (), t.setContent n (t.content n ++ bytes))
    | .device true => (.ok (), t)
    | .device false => (.error (.onPath .writing file.path .noSpace), t)
    | .directory => (.error (.onPath .writing file.path .isDirectory), t)

/-- The first path of a stem and a number that nothing has. -/
def temporaryPath (t : Tree) (directory stem : Text) : Text :=
  let path (i : Nat) : Text := directory ++ [Text.slash] ++ stem ++ Text.ofNat (t.contents.size + i)
  let taken (i : Nat) : Bool := t.locate (path i) matches .ok (.present _ _)
  -- there are more numbers to try than nodes that may be in the way
  path (((List.range (t.nodes.length + 1)).find? fun i => !taken i).getD 0)

/-- Writes a new file under a name that no file has. -/
def writeTemporary (t : Tree) (directory stem bytes : Text) : Except Error Text × Tree :=
  let path := t.temporaryPath directory stem
  match t.locate path with
  | .error w => (.error (.onPath .opening path w), t)
  | .ok (.present _ _) => (.error (.onPath .opening path .alreadyExists), t)
  | .ok (.free parent name) =>
    match t.refusal? parent with
    | some w => (.error (.onPath .opening path w), t)
    | none => (.ok path, t.createFile (name :: parent) bytes)

/-- The place that a file is given under a path: a free name, or one that holds no directory. -/
def placeFor (t : Tree) (path : Text) : Except Refusal Place :=
  match t.locate path with
  | .error w => .error w
  | .ok (.present _ .directory) => .error .alreadyExists
  | .ok (.present place _) => .ok place
  | .ok (.free parent name) => .ok (name :: parent)

/-- Gives a file another path. -/
def rename (t : Tree) (source target : Text) : Except Error Unit × Tree :=
  match t.locate source with
  | .ok (.present old (.file n)) =>
    match t.placeFor target with
    | .error w => (.error (.rename source target w), t)
    | .ok place =>
      match t.refusal? old.tail <|> t.refusal? place.tail with
      | some w => (.error (.rename source target w), t)
      -- a file at the target is replaced; its content is left to whoever has it open
      | none => (.ok (), (t.erase old).put place (.file n))
  | .ok _ => (.error (.rename source target .notFound), t)
  | .error w => (.error (.rename source target w), t)

/-- Removes a file or a directory with all that it holds, if it is there and can be taken away. -/
def remove (t : Tree) (path : Text) : Tree :=
  match t.locate path with
  | .ok (.present place _) => if (t.refusal? place.tail).isNone then t.erase place else t
  | _ => t

/-- The absolute path of the working directory, unless it was removed. -/
def workingDirectory (t : Tree) : Except Error Text :=
  if (t.node? t.current).isSome then .ok (pathOf t.current) else .error (.workingDirectory .notFound)

/-- The paths below a place, relative to it and sorted; a directory's ends with a slash. -/
def pathsBelow (t : Tree) (place : Place) : List Text :=
  (t.nodes.filterMap fun e =>
    if place.isSuffixOf e.1 && e.1 != place then
      let path := Text.join [Text.slash] (e.1.take (e.1.length - place.length)).reverse
      some (if e.2 == .directory then path ++ [Text.slash] else path)
    else none).mergeSort fun a b => !Text.before b a

end Tree

end CastAudit.Disk
