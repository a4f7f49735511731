import CastAudit.Disk.Tree

/-!
# A machine in memory

A tree of files with environment variables and two output streams. Programs written against `Host` run
on it as state transformers.
-/

namespace CastAudit.Disk

/-- A tree of files with the surroundings of a program. -/
structure Machine where
  tree : Tree := {}
  environment : List (Text × Text) := []
  /-- What was printed, last first. -/
  printed : List Text := []
  /-- What was written to the error stream, last first. -/
  complaints : List Text := []
deriving Inhabited

namespace Machine

/-- Runs an operation of the tree. -/
def onTree {α : Type} (f : Tree → α × Tree) : StateM Machine α := do
  let st ← get
  let (a, tree) := f st.tree
  set { st with tree }
  return a

def ask {α : Type} (f : Tree → α) : StateM Machine α := return f (← get).tree

instance : Host (StateM Machine) OpenFile where
  readFile path := ask (·.readFile path)
  inspect path := ask (·.inspect path)
  listDirectory path := ask (·.listDirectory path)
  makeDirectory path := onTree (·.makeDirectory path)
  openAppend path fresh := onTree (·.openAppend path fresh)
  append file bytes := onTree (·.append file bytes)
  writeTemporary directory stem bytes := onTree (·.writeTemporary directory stem bytes)
  rename source target := onTree (·.rename source target)
  removeFile path := onTree fun t => ((), t.remove path)
  workingDirectory := ask Tree.workingDirectory
  lookUp name := return (← get).environment.lookup name
  print text := modify fun st => { st with printed := text :: st.printed }
  complain text := modify fun st => { st with complaints := text :: st.complaints }

/-- Writes a file, with the directories that its path leads through. -/
def plant (path content : Text) : StateM Machine (Except Error Unit) := do
  match ← makeParent path with
  | .error e => return .error e
  | .ok () =>
    match ← Host.openAppend path true with
    | .error e => return .error e
    | .ok file => Host.append file content

/-- The content of a file, if it can be read. -/
def contentOf? (path : Text) : StateM Machine (Option Text) := return (← Host.readFile path).toOption

/-- Makes a directory and makes it the working directory. -/
def enter (path : Text) : StateM Machine (Except Error Unit) := do
  match ← makeDirectories path with
  | .error e => return .error e
  | .ok () =>
    modify fun st =>
      match st.tree.locate path with
      | .ok (.present place _) => { st with tree := { st.tree with current := place } }
      | _ => st
    return .ok ()

/-- Removes a file or a directory with all that it holds. -/
def remove (path : Text) : StateM Machine Unit := Host.removeFile path

/-- The machine with two devices: one that takes all that is written to it, one that is always full. -/
def withDevices : Machine :=
  { tree := { nodes := [([Text.ofString "full", "dev"], .device false), (["null", "dev"], .device true),
                        (["dev"], .directory)] } }

/-- Runs a program in a directory with an environment of its own: its result, what it printed and what
it wrote to the error stream. -/
def observe {α : Type} (directory : Place) (environment : List (Text × Text)) (program : StateM Machine α) :
    StateM Machine (α × Text × Text) := do
  let before ← get
  let inside := { before with
    tree := { before.tree with current := directory }, environment, printed := [], complaints := [] }
  let (result, after) := program.run inside
  set { before with tree := { after.tree with current := before.tree.current } }
  return (result, after.printed.reverse.flatten, after.complaints.reverse.flatten)

end Machine

end CastAudit.Disk
