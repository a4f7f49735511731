import CastAudit.Disk.Machine
import CastAudit.Run

/-!
# Workers

The logs of a run are visited by workers at the same time, one for each log. The workers share the machine and
the memory of the cache, and each has a slot of its own for its outcome.

* `Program` — a program as the steps that it takes on a shared world. Between two steps of one program any
  number of steps of others can lie;
* `Pool` — the workers of a run under way;
* `Pool.advance` — one worker takes one step. Which one is free, so a run is a list of choices (`Pool.follow`).
-/

namespace CastAudit.Run

open Disk (Host Machine OpenFile)

/-! ## programs in steps -/

/-- A program that runs on a shared world. A step changes the world, and what follows depends on the world
before the change. -/
inductive Program (W α : Type) where
  | done (a : α)
  | step (next : W → W) (rest : W → Program W α)

namespace Program

variable {W α β : Type}

/-- A program followed by another one. -/
def bind : Program W α → (α → Program W β) → Program W β
  | done a, f => f a
  | step next rest, f => step next fun w => (rest w).bind f

instance : Monad (Program W) where
  pure := done
  bind := bind

def act (f : W → α × W) : Program W α := step (fun w => (f w).2) fun w => done (f w).1

/-- Runs a program without any step of others in between. -/
def run : Program W α → W → α × W
  | done a, w => (a, w)
  | step next rest, w => (rest w).run (next w)

end Program

/-- What workers share: the machine and the memory of the cache. -/
structure World where
  machine : Machine := {}
  recent : Cache.Recent Cache.Entry := { capacity := 0 }
deriving Inhabited

def Program.ask {α : Type} (operation : StateM Machine α) : Program World α :=
  .act fun w => ((operation.run w.machine).1, { w with machine := (operation.run w.machine).2 })

instance : Host (Program World) OpenFile where
  readFile path := .ask (Host.readFile path)
  inspect path := .ask (Host.inspect path)
  listDirectory path := .ask (Host.listDirectory path)
  makeDirectory path := .ask (Host.makeDirectory path)
  openAppend path fresh := .ask (Host.openAppend path fresh)
  append file bytes := .ask (Host.append file bytes)
  writeTemporary directory stem content := .ask (Host.writeTemporary directory stem content)
  rename source target := .ask (Host.rename source target)
  removeFile path := .ask (Host.removeFile path)
  workingDirectory := .ask Host.workingDirectory
  lookUp name := .ask (Host.lookUp name)
  print text := .ask (Host.print text)
  complain text := .ask (Host.complain text)

/-- The memory of a cache is asked in one step, and a program that holds the lock on its files is not
interrupted. -/
instance : Cache.Shared (Program World) where
  fetch key := .act fun w =>
    (w.recent.value? key, { w with recent := (w.recent.value? key).elim w.recent (w.recent.touch key) })
  keep key entry := .act fun w => ((), { w with recent := w.recent.touch key entry })
  exclusively program := .act program.run

/-! ## a pool of workers -/

/-- The number of workers that may be active at once: as many as wanted, or one for each processor when no
number is given, but not more than logs and at least one. -/
def workerLimit (wanted : Int) (processors logs : Nat) : Nat :=
  max 1 (min (if wanted ≤ 0 then processors else wanted.toNat) logs)

/-- The state of the worker of one log. -/
inductive Worker (W : Type) where
  /-- Not started yet. -/
  | waiting
  | running (program : Program W Outcome)
  /-- The outcome is in its slot. -/
  | filled
  /-- The log is counted as the one with a number. -/
  | counted (number : Nat)
  /-- The event was sent. -/
  | finished (number : Nat)

namespace Worker

variable {W : Type}

/-- The worker is not started yet. -/
def isWaiting : Worker W → Bool
  | waiting => true
  | _ => false

def isFinished : Worker W → Bool
  | finished _ => true
  | _ => false

/-- The worker is started and not through. -/
def isActive (w : Worker W) : Bool := !w.isWaiting && !w.isFinished

end Worker

/-- What the workers of a run are to do. -/
structure Plan (W : Type) where
  jobs : List Job
  /-- How many workers may be active at once. -/
  limit : Nat
  visit : Job → Program W Outcome

/-- The workers of a run under way, with one slot for each. -/
structure Pool (W : Type) where
  world : W
  workers : List (Worker W)
  slots : List Outcome
  /-- The number of logs counted so far. -/
  count : Nat := 0
  /-- The events sent so far, in order. -/
  events : List Progress := []

namespace Pool

variable {W : Type}

/-- The pool before the first step: no worker is started and all slots are blank. -/
def start (plan : Plan W) (world : W) : Pool W :=
  ⟨world, plan.jobs.map fun _ => .waiting, plan.jobs.map fun _ => {}, 0, []⟩

/-- The worker with an index is the next to start, and one more may be active. -/
def mayStart (limit : Nat) (s : Pool W) (i : Nat) : Bool :=
  (s.workers.take i).all (!·.isWaiting) && decide (s.workers.countP Worker.isActive < limit)

/-- The worker with an index takes its next step, if it has one. -/
def advance (plan : Plan W) (s : Pool W) (i : Nat) : Option (Pool W) :=
  match plan.jobs[i]?, s.workers[i]? with
  | some job, some .waiting =>
    if s.mayStart plan.limit i then some { s with workers := s.workers.set i (.running (plan.visit job)) } else none
  | some _, some (.running (.step next rest)) =>
    some { s with world := next s.world, workers := s.workers.set i (.running (rest s.world)) }
  | some _, some (.running (.done outcome)) =>
    some { s with slots := s.slots.set i outcome, workers := s.workers.set i .filled }
  | some _, some .filled =>
    -- counting is one step, so no two logs have one number
    some { s with count := s.count + 1, workers := s.workers.set i (.counted (s.count + 1)) }
  -- others may have sent theirs in between: events need not stand in the order of their numbers
  | some job, some (.counted number) =>
    some { s with
      events := s.events ++ [(s.slots.getD i {}).event job number plan.jobs.length]
      workers := s.workers.set i (.finished number) }
  | _, _ => none

/-- The pool after some choices of the worker that takes the next step. -/
def follow (plan : Plan W) : Pool W → List Nat → Option (Pool W)
  | s, [] => some s
  | s, i :: choices => (s.advance plan i).bind fun s => follow plan s choices

/-- All workers are through, and the outcomes can be merged. -/
def isFinished (s : Pool W) : Bool := s.workers.all Worker.isFinished

end Pool

/-- The plan of a run over a listing, with a wish for the number of workers. -/
def plan (profile : Profile) (directory : Option Text) (listing : Listing) (wanted : Int) (processors : Nat) :
    Plan World where
  jobs := listing.jobs
  limit := workerLimit wanted processors listing.jobs.length
  visit := visit profile directory

end CastAudit.Run
