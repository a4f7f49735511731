import CastAudit.Text.Basic

/-!
# Paths

Slash-separated paths, handled as texts: `clean` gives the shortest path with the same meaning by
rules alone, and the other functions take a path apart or put one together.
-/

namespace CastAudit.Path

def parts (path : Text) : List Text := Text.splitOn path [Text.slash]

def isAbsolute (path : Text) : Bool := path.head? == some Text.slash

/-- The part that names the same directory. -/
abbrev here : Text := [Text.dot]

/-- The part that names the directory above. -/
abbrev above : Text := [Text.dot, Text.dot]

/-- One part of a path on a stack of clean parts, innermost first. Empty parts and `.` vanish, `..`
removes the part before it; above the root there is nothing. -/
def pushPart (absolute : Bool) (stack : List Text) (part : Text) : List Text :=
  if part.isEmpty || part == here then stack
  else if part == above then
    match stack with
    | top :: rest => if top == above then part :: stack else rest
    | [] => if absolute then [] else [part]
  else part :: stack

/-- The shortest path equal to a path by its parts alone. -/
def clean (path : Text) : Text :=
  let absolute := isAbsolute path
  let stack := (parts path).foldl (pushPart absolute) []
  let body := Text.join [Text.slash] stack.reverse
  if absolute then Text.slash :: body else if body.isEmpty then here else body

/-- The clean path of some parts; empty parts at the front are left out. -/
def join (elements : List Text) : Text :=
  match elements.dropWhile List.isEmpty with
  | [] => []
  | es => clean (Text.join [Text.slash] es)

def isNameByte (b : UInt8) : Bool := b ≠ Text.slash

def directory (path : Text) : Text := clean (Text.dropEnd path isNameByte)

/-- The last part of a path, trailing slashes left out. -/
def name (path : Text) : Text :=
  if path.isEmpty then here
  else
    let path := Text.dropEnd path (· = Text.slash)
    if path.isEmpty then [Text.slash] else (path.reverse.takeWhile isNameByte).reverse

/-- The last part of a name from its last full stop on; empty without one. -/
def extension (path : Text) : Text :=
  let last := path.reverse.takeWhile isNameByte
  if last.contains Text.dot then (last.takeWhile (· ≠ Text.dot) ++ [Text.dot]).reverse else []

/-- The paths that a clean path leads through, longest first: the path itself, then what stands
before each slash. -/
def ancestors (path : Text) : List Text :=
  let step (found : List Text × Text) (b : UInt8) : List Text × Text :=
    (if b = Text.slash && !found.2.isEmpty then found.2.reverse :: found.1 else found.1, b :: found.2)
  path :: (path.foldl step ([], [])).1

end CastAudit.Path
