import CastAudit.Text.Basic

/-!
# Refused file operations

The reasons for which the system refuses an operation on a path, and how a message tells them.
-/

namespace CastAudit.Disk

/-- Why the system refuses an operation. -/
inductive Refusal where
  | notFound
  | notDirectory
  | isDirectory
  | alreadyExists
  | nameTooLong
  | invalidArgument
  | noSpace
  | notEmpty
  | denied
  /-- The handle was closed before. -/
  | closed
  /-- Any other reason, in the system's words. -/
  | other (text : Text)
deriving Repr, BEq, DecidableEq, Inhabited

/-- The system's words for a reason. -/
def Refusal.message : Refusal → Text
  | notFound => "no such file or directory"
  | notDirectory => "not a directory"
  | isDirectory => "is a directory"
  | alreadyExists => "file exists"
  | nameTooLong => "file name too long"
  | invalidArgument => "invalid argument"
  | noSpace => "no space left on device"
  | notEmpty => "directory not empty"
  | denied => "permission denied"
  | closed => "file already closed"
  | other t => t

/-- The operation that was refused. -/
inductive Operation where
  | opening
  | reading
  | writing
  | makingDirectory
  | inspecting
  /-- Reading the names in a directory. -/
  | listing
deriving Repr, BEq, DecidableEq, Inhabited

def Operation.word : Operation → Text
  | opening => "open"
  | reading => "read"
  | writing => "write"
  | makingDirectory => "mkdir"
  | inspecting => "stat"
  | listing => "readdirent"

/-- A refused operation with what it was about. -/
inductive Error where
  | onPath (operation : Operation) (path : Text) (why : Refusal)
  /-- A renaming. -/
  | rename (source target : Text) (why : Refusal)
  /-- Asking for the working directory. -/
  | workingDirectory (why : Refusal)
deriving Repr, BEq, DecidableEq, Inhabited

namespace Error

/-- The reason of a refused operation. -/
def why : Error → Refusal
  | onPath _ _ w => w
  | rename _ _ w => w
  | workingDirectory w => w

/-- The message of a refused operation. -/
def message : Error → Text
  | onPath o p w => o.word ++ " " ++ p ++ ": " ++ w.message
  | rename a b w => "rename " ++ a ++ " " ++ b ++ ": " ++ w.message
  | workingDirectory w => "getwd: " ++ w.message

/-- The file does not exist. A path that leads through a file that is no directory is another matter. -/
def isMissing (e : Error) : Bool := e.why == .notFound

/-- The file could not even be opened. -/
def isOpening : Error → Bool
  | onPath .opening _ _ => true
  | _ => false

end Error

end CastAudit.Disk
