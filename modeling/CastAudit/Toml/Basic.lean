import CastAudit.Text.Basic

/-!
# TOML documents

A document is a list of statements: table headers and assignments of values to dotted keys. `entries?` carries
the statements out. A name is defined once, with three exceptions: a table that was only implied
may still be given a header, a list may be assigned over, and a further header in double brackets starts
the next table of a list.
-/

namespace CastAudit.Toml

/-- A value as it is written. -/
inductive Value where
  | text (value : Text)
  | integer (value : Int)
  | boolean (value : Bool)
  /-- A number with a fraction, a date or a time. -/
  | other
  | list (items : List Value)
  | inline (fields : List (List Text × Value))
deriving Repr, BEq, Inhabited

/-- A statement of a document. -/
inductive Statement where
  | table (key : List Text)
  | tableOfList (key : List Text)
  | assign (key : List Text) (value : Value)
deriving Repr, BEq, Inhabited

/-- What a name stands for once statements are carried out. -/
inductive Node where
  /-- A value other than a table. -/
  | leaf (value : Value)
  | table (entries : List (Text × Node))
  /-- The tables of a list, last first. -/
  | tables (all : List (List (Text × Node)))
deriving Inhabited

abbrev Entries := List (Text × Node)

/-- The table with a node under a name. -/
def Entries.put (entries : Entries) (name : Text) (node : Node) : Entries :=
  if (entries.lookup name).isSome then entries.map fun e => if e.1 == name then (name, node) else e
  else entries ++ [(name, node)]

/-- The table that a path leads to; a list of tables stands for its last one. A path through anything
else leads nowhere. -/
def Entries.at? : List Text → Entries → Option Entries
  | [], entries => some entries
  | name :: path, entries =>
    match entries.lookup name with
    | some (.table inner) => at? path inner
    | some (.tables (last :: _)) => at? path last
    | _ => none

/-- The entries with a node under a name of the table that a path leads to. -/
def Entries.putAt (name : Text) (node : Node) : List Text → Entries → Entries
  | [], entries => entries.put name node
  | step :: path, entries =>
    match entries.lookup step with
    | some (.table inner) => entries.put step (.table (putAt name node path inner))
    | some (.tables (last :: before)) => entries.put step (.tables (putAt name node path last :: before))
    | _ => entries

/-- The document so far: its names, the paths that are only implied, the paths that hold lists, and the
table that statements go into. -/
structure State where
  root : Entries := []
  implied : List (List Text) := []
  lists : List (List Text) := []
  context : List Text := []
deriving Inhabited

namespace State

/-- The state in which a path is only implied. -/
def imply (st : State) (path : List Text) : State := { st with implied := path :: st.implied.filter (· != path) }

/-- The state in which a path is no longer just implied. -/
def settle (st : State) (path : List Text) : State := { st with implied := st.implied.filter (· != path) }

/-- The path that the kind of a value under a name of the context is noted for. An empty name stands for
the context itself, if there is one. -/
def noted (st : State) (name : Text) : List Text :=
  if name.isEmpty && !st.context.isEmpty then st.context else st.context ++ [name]

/-- The state that knows whether a path holds a list. -/
def mark (st : State) (path : List Text) (isList : Bool) : State :=
  let others := st.lists.filter (· != path)
  { st with lists := if isList then path :: others else others }

/-- The state with a node under a name of the context. -/
def put (st : State) (name : Text) (node : Node) : State :=
  { st with root := st.root.putAt name node st.context }

/-- Gives a name of the context its node. A list is replaced, an implied table stays as it is, and any
other name must be new. -/
def define? (st : State) (name : Text) (node : Node) : Option State := do
  let path := st.context ++ [name]
  let here ← st.root.at? st.context
  match here.lookup name with
  | none => some (st.put name node)
  | some _ =>
    if st.lists.contains path then some ((st.settle path).put name node)
    else if st.implied.contains path then some (st.settle path)
    else none

/-- Makes sure that the names of a path lead to tables, those that are new being implied, and goes there. -/
def reach? (st : State) : List Text → Option State
  | [] => some st
  | name :: rest => do
    let path := st.context ++ [name]
    let here ← st.root.at? st.context
    let st := if (here.lookup name).isSome then st else (st.put name (.table [])).imply path
    let _ ← st.root.at? path
    reach? { st with context := path } rest

/-- Starts the next table of the list under a name of the context. -/
def startNext? (st : State) (name : Text) : Option State := do
  let here ← st.root.at? st.context
  match here.lookup name with
  | none => some (st.put name (.tables [[]]))
  | some (.tables all) => some (st.put name (.tables ([] :: all)))
  | some _ => none

/-- Enters the table of a path, or with `next` a new table of the list there. -/
def enter? (st : State) (path : List Text) (next : Bool) : Option State :=
  match path.getLast? with
  | none => none
  | some name => do
    let st ← { st with context := [] }.reach? path.dropLast
    let st ← if next then st.startNext? name else st.define? name (.table [])
    some { st with context := path }

/-- Enters the tables that the front of a dotted key implies. -/
def descend? (st : State) (names : List Text) : Option State :=
  names.foldlM (fun st name => (st.imply (st.context ++ [name])).enter? (st.context ++ [name]) false) st

mutual

/-- Carries out what writing a value under a name of the context does before the name is defined. -/
def prepare? (st : State) (name : Text) (inList : Bool) : Value → Option State
  | .list items => prepareItems? (st.mark (st.noted name) true) name items
  | .inline fields => do
    let path := st.context ++ [name]
    let inner ← (st.imply path).enter? path inList
    let inner ← assignAll? inner path fields
    some { inner with context := st.context }
  | _ => some st

/-- The same for the items of a list. -/
def prepareItems? (st : State) (name : Text) : List Value → Option State
  | [] => some st
  | item :: rest => do
    let st ← prepare? st name true item
    prepareItems? st name rest

/-- Carries out the assignments of an inline table at a path. -/
def assignAll? (st : State) (path : List Text) : List (List Text × Value) → Option State
  | [] => some st
  | (key, value) :: rest =>
    match key.getLast? with
    | none => none
    | some name => do
      let inner ← descend? st key.dropLast
      let inner ← prepare? inner name false value
      let inner ← inner.define? name (.leaf value)
      let inner := inner.mark (inner.noted name) (value matches .list _)
      assignAll? { inner with context := path } path rest

end

/-- Carries out an assignment in the context. -/
def assign? (st : State) (key : List Text) (value : Value) : Option State :=
  assignAll? st st.context [(key, value)]

/-- Carries out a statement. -/
def step? (st : State) : Statement → Option State
  | .table key => do
    let st ← st.enter? key false
    some (st.mark key false)
  | .tableOfList key => do
    let st ← st.enter? key true
    some (st.mark key false)
  | .assign key value => st.assign? key value

end State

/-- The names of a document, if all of its statements can be carried out. -/
def entries? (statements : List Statement) : Option Entries :=
  (statements.foldlM State.step? {}).map State.root

end CastAudit.Toml
