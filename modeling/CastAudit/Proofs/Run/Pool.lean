import CastAudit.Run.Workers
import Mathlib.Algebra.BigOperators.Group.Finset.Basic
import Mathlib.Algebra.Order.BigOperators.Group.Finset
import Mathlib.Data.List.Range
import Mathlib.Tactic.Common

/-!
# Pools of workers

What holds of a pool under every order of the workers' steps. A property of the world that each program keeps
is kept by the pool, however the programs are interleaved, since each step is a step of one program.

* `Program.Keeps known kept result` — from any world on which the assumption `known` and the invariant `kept` hold,
  each step of the program gives a world with `kept`, and the answer at the end satisfies `result`;
* `Program.EndsWithin n` — the program takes at most `n` steps;
* `Pool.Step` — the five moves of a worker, and `Pool.step_of_advance`;
* `Pool.Sound`, `Pool.Tallied`, `Pool.Bounded` — the outcomes in the slots, the events with their numbers, and the
  steps that are left, each with a step lemma and a run lemma;
* `Pool.exists_advance` — a pool that is not through can go on.
-/

namespace CastAudit.Run

variable {W α β : Type}

/-! ## programs -/

namespace Program

/-- Every step of the program keeps `kept` where `known` holds, and its answer satisfies `result`. -/
def Keeps (known kept : W → Prop) (result : α → Prop) : Program W α → Prop
  | done a => result a
  | step next rest => ∀ w, known w → kept w → kept (next w) ∧ (rest w).Keeps known kept result

/-- The program takes at most `n` steps. -/
def EndsWithin : Nat → Program W α → Prop
  | _, done _ => True
  | 0, step _ _ => False
  | n + 1, step _ rest => ∀ w, (rest w).EndsWithin n

variable {known kept : W → Prop}

theorem keeps_bind {result : β → Prop} {p : Program W α} {f : α → Program W β}
    (h : p.Keeps known kept fun a => (f a).Keeps known kept result) : (p >>= f).Keeps known kept result := by
  induction p with
  | done a => exact h
  | step next rest ih =>
    intro w hk hw
    obtain ⟨hnext, hrest⟩ := h w hk hw
    exact ⟨hnext, ih w hrest⟩

theorem keeps_act {result : α → Prop} {f : W → α × W}
    (h : ∀ w, known w → kept w → kept (f w).2 ∧ result (f w).1) : (act f).Keeps known kept result :=
  h

theorem Keeps.imp {result result' : α → Prop} {p : Program W α} (hp : p.Keeps known kept result)
    (h : ∀ a, result a → result' a) : p.Keeps known kept result' := by
  induction p with
  | done a => exact h a hp
  | step next rest ih =>
    intro w hk hw
    obtain ⟨hnext, hrest⟩ := hp w hk hw
    exact ⟨hnext, ih w hrest⟩

theorem EndsWithin.mono {n k : Nat} (hnk : n ≤ k) {p : Program W α} (hp : p.EndsWithin n) : p.EndsWithin k := by
  induction p generalizing n k with
  | done a => cases k <;> trivial
  | step next rest ih =>
    cases n with
    | zero => exact hp.elim
    | succ n =>
      obtain ⟨k, rfl⟩ := Nat.exists_eq_add_of_lt hnk
      exact fun w => ih w (Nat.le_add_right n k) (hp w)

theorem endsWithin_bind {n k : Nat} {p : Program W α} {f : α → Program W β} (hp : p.EndsWithin n)
    (hf : ∀ a, (f a).EndsWithin k) : (p >>= f).EndsWithin (n + k) := by
  induction p generalizing n with
  | done a => exact (hf a).mono (Nat.le_add_left k n)
  | step next rest ih =>
    cases n with
    | zero => exact hp.elim
    | succ n =>
      rw [Nat.add_right_comm]
      exact fun w => ih w (hp w)

theorem endsWithin_act (f : W → α × W) : (act f).EndsWithin 1 := fun _ => trivial

end Program

/-! ## moves -/

namespace Pool

variable {plan : Plan W} {s s' : Pool W} {i : Nat}

/-- The moves of the worker with an index. -/
inductive Step (plan : Plan W) (s : Pool W) (i : Nat) : Pool W → Prop where
  | start {job : Job} (hjob : plan.jobs[i]? = some job) (hw : s.workers[i]? = some .waiting)
      (hmay : s.mayStart plan.limit i = true) :
      Step plan s i { s with workers := s.workers.set i (.running (plan.visit job)) }
  | act {next : W → W} {rest : W → Program W Outcome} (hw : s.workers[i]? = some (.running (.step next rest))) :
      Step plan s i { s with world := next s.world, workers := s.workers.set i (.running (rest s.world)) }
  | fill {outcome : Outcome} (hw : s.workers[i]? = some (.running (.done outcome))) :
      Step plan s i { s with slots := s.slots.set i outcome, workers := s.workers.set i .filled }
  | count (hw : s.workers[i]? = some .filled) :
      Step plan s i { s with count := s.count + 1, workers := s.workers.set i (.counted (s.count + 1)) }
  | emit {job : Job} {number : Nat} (hjob : plan.jobs[i]? = some job)
      (hw : s.workers[i]? = some (.counted number)) :
      Step plan s i { s with
        events := s.events ++ [(s.slots.getD i {}).event job number plan.jobs.length]
        workers := s.workers.set i (.finished number) }

theorem step_of_advance (h : s.advance plan i = some s') : Step plan s i s' := by
  unfold advance at h
  split at h
  · next job hjob hw =>
    split at h
    · next hmay => cases h; exact .start hjob hw hmay
    · cases h
  · next hw => cases h; exact .act hw
  · next hw => cases h; exact .fill hw
  · next hw => cases h; exact .count hw
  · next hjob hw => cases h; exact .emit hjob hw
  · cases h

/-- Every world that a run passes, the first and the last included, satisfies a property. -/
def Throughout (plan : Plan W) (known : W → Prop) : Pool W → List Nat → Prop
  | s, [] => known s.world
  | s, i :: choices => known s.world ∧ ∀ s', s.advance plan i = some s' → Throughout plan known s' choices

instance decidableThroughout (plan : Plan W) (known : W → Prop) [DecidablePred known] :
    ∀ (s : Pool W) (choices : List Nat), Decidable (Throughout plan known s choices)
  | s, [] => inferInstanceAs (Decidable (known s.world))
  | s, i :: choices =>
    match h : s.advance plan i with
    | none => decidable_of_iff (known s.world) (by simp [Throughout, h])
    | some s' =>
      have := decidableThroughout plan known s' choices
      decidable_of_iff (known s.world ∧ Throughout plan known s' choices) (by simp [Throughout, h])

theorem throughout_true {choices : List Nat} : Throughout plan (fun _ => True) s choices := by
  induction choices generalizing s with
  | nil => trivial
  | cons i choices ih => exact ⟨trivial, fun s' _ => ih⟩

theorem Throughout.imp {known known' : W → Prop} (himp : ∀ w, known w → known' w) {choices : List Nat}
    (h : Throughout plan known s choices) : Throughout plan known' s choices := by
  induction choices generalizing s with
  | nil => exact himp _ h
  | cons i choices ih => exact ⟨himp _ h.1, fun s' hs => ih (h.2 s' hs)⟩

/-- What every step keeps is kept by a run. -/
theorem follow_induction {known : W → Prop} {motive : Pool W → Prop}
    (step : ∀ s i s', known s.world → motive s → Step plan s i s' → motive s')
    {choices : List Nat} (h : s.follow plan choices = some s') (hknown : Throughout plan known s choices)
    (hs : motive s) : motive s' := by
  induction choices generalizing s with
  | nil => cases h; exact hs
  | cons i choices ih =>
    obtain ⟨s₁, h₁, h⟩ := Option.bind_eq_some_iff.1 h
    obtain ⟨hnow, hlater⟩ := hknown
    exact ih h (hlater s₁ h₁) (step s i s₁ hnow hs (step_of_advance h₁))

theorem exists_finished (hfinished : s.isFinished = true) (hi : i < s.workers.length) :
    ∃ number, s.workers[i]? = some (.finished number) := by
  have := List.all_eq_true.1 hfinished _ (List.getElem_mem hi)
  rw [List.getElem?_eq_getElem hi]
  cases hw : s.workers[i] with
  | finished number => exact ⟨number, rfl⟩
  | _ => simp [hw, Worker.isFinished] at this

/-! ## outcomes -/

/-- The worker will leave, or has left, an outcome that satisfies `result` in its slot. -/
def Serves (known kept : W → Prop) (result : Outcome → Prop) : Worker W → Option Outcome → Prop
  | .waiting, _ => True
  | .running program, _ => program.Keeps known kept result
  | .filled, slot | .counted _, slot | .finished _, slot => ∃ outcome, slot = some outcome ∧ result outcome

/-- **The invariant of a pool**: the world is as the programs keep it, and each worker serves its own slot. -/
structure Sound (plan : Plan W) (known kept : W → Prop) (result : Job → Outcome → Prop) (s : Pool W) : Prop where
  world : kept s.world
  workers : s.workers.length = plan.jobs.length
  slots : s.slots.length = plan.jobs.length
  serves : ∀ (i : Nat) (job : Job) (worker : Worker W), plan.jobs[i]? = some job → s.workers[i]? = some worker →
    Serves known kept (result job) worker s.slots[i]?

variable {known kept : W → Prop} {result : Job → Outcome → Prop}

theorem sound_start {world : W} (h : kept world) : Sound plan known kept result (start plan world) where
  world := h
  workers := by simp [start]
  slots := by simp [start]
  serves i job worker hjob hworker := by
    simp only [start, List.getElem?_map, hjob, Option.map_some, Option.some.injEq] at hworker
    subst hworker
    trivial

/-- A worker that moves on leaves the slots of the others alone. -/
theorem Sound.set (h : Sound plan known kept result s) {world : W} (hworld : kept world) {slots : List Outcome}
    (hlen : slots.length = s.slots.length) (hslots : ∀ j, j ≠ i → slots[j]? = s.slots[j]?) {worker : Worker W}
    (hserves : ∀ job, plan.jobs[i]? = some job → Serves known kept (result job) worker slots[i]?)
    (count : Nat) (events : List Progress) :
    Sound plan known kept result ⟨world, s.workers.set i worker, slots, count, events⟩ where
  world := hworld
  workers := by simpa using h.workers
  slots := hlen.trans h.slots
  serves j job w hjob hw := by
    by_cases hij : j = i
    · subst hij
      have hlt : j < s.workers.length := h.workers ▸ (List.getElem?_eq_some_iff.1 hjob).1
      rw [List.getElem?_set_self hlt, Option.some.injEq] at hw
      exact hw ▸ hserves job hjob
    · rw [List.getElem?_set_ne (Ne.symm hij)] at hw
      simp only [hslots j hij]
      exact h.serves j job w hjob hw

/-- **One step keeps the invariant.** -/
theorem Sound.step (hvisit : ∀ job ∈ plan.jobs, (plan.visit job).Keeps known kept (result job))
    (h : Sound plan known kept result s) (hknown : known s.world) (hs : Step plan s i s') :
    Sound plan known kept result s' := by
  cases hs with
  | start hjob hw hmay =>
    refine h.set h.world rfl (fun _ _ => rfl) (fun job' hjob' => ?_) _ _
    obtain rfl := Option.some.inj (hjob.symm.trans hjob')
    exact hvisit _ (List.mem_of_getElem? hjob)
  | @act next rest hw =>
    have hlt : i < plan.jobs.length := h.workers ▸ (List.getElem?_eq_some_iff.1 hw).1
    have hkeeps := h.serves i _ _ (List.getElem?_eq_getElem hlt) hw s.world hknown h.world
    refine h.set hkeeps.1 rfl (fun _ _ => rfl) (fun job hjob => ?_) _ _
    exact (h.serves i job _ hjob hw s.world hknown h.world).2
  | @fill outcome hw =>
    refine h.set h.world (by simp) (fun j hj => List.getElem?_set_ne (Ne.symm hj)) (fun job hjob => ?_) _ _
    have hlt : i < s.slots.length := h.slots ▸ (List.getElem?_eq_some_iff.1 hjob).1
    exact ⟨outcome, List.getElem?_set_self hlt, h.serves i job _ hjob hw⟩
  | count hw =>
    refine h.set h.world rfl (fun _ _ => rfl) (fun job hjob => ?_) _ _
    exact h.serves i job .filled hjob hw
  | @emit _ number _ hw =>
    refine h.set h.world rfl (fun _ _ => rfl) (fun job hjob => ?_) _ _
    exact h.serves i job (.counted number) hjob hw

/-- **A whole run keeps the invariant.** -/
theorem sound_follow (hvisit : ∀ job ∈ plan.jobs, (plan.visit job).Keeps known kept (result job)) {world : W}
    (hworld : kept world) {choices : List Nat} (h : (start plan world).follow plan choices = some s)
    (hknown : Throughout plan known (start plan world) choices) : Sound plan known kept result s :=
  follow_induction (fun _ _ _ hk hs hstep => hs.step hvisit hk hstep) h hknown (sound_start hworld)

/-- What every visit keeps, whatever the others do, holds of every world that a run passes. -/
theorem throughout_of_sound (hvisit : ∀ job ∈ plan.jobs, (plan.visit job).Keeps (fun _ => True) kept (result job))
    {choices : List Nat} (h : Sound plan (fun _ => True) kept result s) : Throughout plan kept s choices := by
  induction choices generalizing s with
  | nil => exact h.world
  | cons i choices ih =>
    refine ⟨h.world, fun s' hs => ih ?_⟩
    exact h.step hvisit trivial (step_of_advance hs)

theorem Sound.forall₂_slots (h : Sound plan known kept result s) (hfinished : s.isFinished = true) :
    List.Forall₂ result plan.jobs s.slots := by
  rw [List.forall₂_iff_get]
  refine ⟨h.slots.symm, fun i hi hi' => ?_⟩
  obtain ⟨number, hw⟩ := exists_finished hfinished (h.workers ▸ hi)
  obtain ⟨o, ho, hr⟩ := h.serves i plan.jobs[i] _ (List.getElem?_eq_getElem hi) hw
  rw [List.getElem?_eq_getElem hi', Option.some.injEq] at ho
  rw [← ho] at hr
  exact hr

/-! ## events -/

/-- A place of a list that gives something new gives it to the whole. -/
theorem filterMap_range_perm {f g : Nat → Option α} {n i : Nat} (hi : i < n) {a : α} (hf : f i = none)
    (hg : g i = some a) (hfg : ∀ j, j ≠ i → g j = f j) :
    ((List.range n).filterMap g).Perm ((List.range n).filterMap f ++ [a]) := by
  induction n with
  | zero => omega
  | succ n ih =>
    rw [List.range_succ, List.filterMap_append, List.filterMap_append]
    by_cases hin : i = n
    · subst hin
      have hbelow : (List.range i).filterMap g = (List.range i).filterMap f :=
        List.filterMap_congr fun j hj => hfg j (Nat.ne_of_lt (List.mem_range.1 hj))
      simp [hbelow, hf, hg]
    · rw [List.filterMap_cons, List.filterMap_cons, hfg n (Ne.symm hin)]
      have := ih (by omega)
      cases f n with
      | none => simpa using this
      | some b =>
        refine (this.append_right [b]).trans ?_
        simp only [List.filterMap_nil, List.append_assoc]
        exact List.Perm.append_left _ (List.Perm.swap b a [])

/-- The number that a worker has drawn. -/
def numberOf : Worker W → Option Nat
  | .counted number | .finished number => some number
  | _ => none

/-- The number that a worker has sent. -/
def sentBy : Worker W → Option Nat
  | .finished number => some number
  | _ => none

/-- The number of the worker with an index. -/
def numberAt (s : Pool W) (i : Nat) : Option Nat := s.workers[i]?.bind numberOf

/-- The event that the worker with an index has sent. -/
def eventAt (plan : Plan W) (s : Pool W) (i : Nat) : Option Progress :=
  (s.workers[i]?.bind sentBy).bind fun number =>
    plan.jobs[i]?.map fun job => (s.slots.getD i {}).event job number plan.jobs.length

/-- **The tally of a pool**: the numbers drawn are those up to the count, and the events are those of the workers
that are through, in some order. -/
structure Tallied (plan : Plan W) (s : Pool W) : Prop where
  workers : s.workers.length = plan.jobs.length
  numbers : ((List.range plan.jobs.length).filterMap s.numberAt).Perm (List.range' 1 s.count)
  events : s.events.Perm ((List.range plan.jobs.length).filterMap (s.eventAt plan))

section Set

variable {worker worker' : Worker W} (hw : s.workers[i]? = some worker) (hset : s'.workers = s.workers.set i worker')
include hw hset

theorem numberAt_set_self : s.numberAt i = numberOf worker ∧ s'.numberAt i = numberOf worker' := by
  have hlt := (List.getElem?_eq_some_iff.1 hw).1
  simp [numberAt, hw, hset, List.getElem?_set_self hlt]

omit hw in
theorem numberAt_set_ne {j : Nat} (hj : j ≠ i) : s'.numberAt j = s.numberAt j := by
  simp [numberAt, hset, List.getElem?_set_ne (Ne.symm hj)]

theorem eventAt_set_self {job : Job} (hjob : plan.jobs[i]? = some job) :
    s.eventAt plan i =
        (sentBy worker).map (fun number => (s.slots.getD i {}).event job number plan.jobs.length) ∧
      s'.eventAt plan i =
        (sentBy worker').map (fun number => (s'.slots.getD i {}).event job number plan.jobs.length) := by
  have hlt := (List.getElem?_eq_some_iff.1 hw).1
  simp [eventAt, hw, hset, List.getElem?_set_self hlt, hjob, Option.map_eq_bind]

omit hw in
theorem eventAt_set_ne (hslots : ∀ j, j ≠ i → s'.slots[j]? = s.slots[j]?) {j : Nat} (hj : j ≠ i) :
    s'.eventAt plan j = s.eventAt plan j := by
  simp [eventAt, hset, List.getElem?_set_ne (Ne.symm hj), List.getD_eq_getElem?_getD, hslots j hj]

/-- A move that draws no number. -/
theorem Tallied.numbers_same (h : Tallied plan s) (hcount : s'.count = s.count)
    (hnumber : numberOf worker' = numberOf worker) :
    ((List.range plan.jobs.length).filterMap s'.numberAt).Perm (List.range' 1 s'.count) := by
  have hsame : ∀ j, s'.numberAt j = s.numberAt j := fun j => by
    by_cases hj : j = i
    · obtain ⟨hold, hnew⟩ := numberAt_set_self hw hset
      rw [hj, hold, hnew, hnumber]
    · exact numberAt_set_ne hset hj
  rw [hcount, funext hsame]
  exact h.numbers

/-- A move that sends no event. -/
theorem Tallied.events_same (h : Tallied plan s) (hslots : ∀ j, j ≠ i → s'.slots[j]? = s.slots[j]?)
    (hevents : s'.events = s.events) (hold : sentBy worker = none) (hnew : sentBy worker' = none) :
    s'.events.Perm ((List.range plan.jobs.length).filterMap (s'.eventAt plan)) := by
  have hsame : ∀ j, s'.eventAt plan j = s.eventAt plan j := fun j => by
    by_cases hj : j = i
    · have hlt : i < plan.jobs.length := h.workers ▸ (List.getElem?_eq_some_iff.1 hw).1
      obtain ⟨hold', hnew'⟩ := eventAt_set_self hw hset (List.getElem?_eq_getElem hlt)
      rw [hj, hold', hnew', hold, hnew]
      rfl
    · exact eventAt_set_ne hset hslots hj
  rw [hevents, funext hsame]
  exact h.events

end Set

/-- **One step keeps the tally.** -/
theorem Tallied.step (h : Tallied plan s) (hs : Step plan s i s') : Tallied plan s' := by
  have hlen {worker : Worker W} : (s.workers.set i worker).length = plan.jobs.length := by
    rw [List.length_set, h.workers]
  cases hs with
  | start _ hw _ => exact ⟨hlen, h.numbers_same hw rfl rfl rfl, h.events_same hw rfl (fun _ _ => rfl) rfl rfl rfl⟩
  | act hw => exact ⟨hlen, h.numbers_same hw rfl rfl rfl, h.events_same hw rfl (fun _ _ => rfl) rfl rfl rfl⟩
  | fill hw =>
    refine ⟨hlen, h.numbers_same hw rfl rfl rfl, h.events_same hw rfl (fun j hj => ?_) rfl rfl rfl⟩
    exact List.getElem?_set_ne (Ne.symm hj)
  | count hw =>
    -- the number drawn is the next one
    refine ⟨hlen, ?_, h.events_same hw rfl (fun _ _ => rfl) rfl rfl rfl⟩
    have hlt : i < plan.jobs.length := h.workers ▸ (List.getElem?_eq_some_iff.1 hw).1
    have hset : ({ s with count := s.count + 1, workers := s.workers.set i (.counted (s.count + 1)) } : Pool W).workers =
      s.workers.set i (.counted (s.count + 1)) := rfl
    obtain ⟨hold, hnew⟩ := numberAt_set_self hw hset
    have hperm := filterMap_range_perm hlt hold hnew fun j hj => numberAt_set_ne hset hj
    rw [List.range'_1_concat, Nat.add_comm 1]
    exact hperm.trans (h.numbers.append_right _)
  | @emit job number hjob hw =>
    refine ⟨hlen, h.numbers_same hw rfl rfl rfl, ?_⟩
    have hlt : i < plan.jobs.length := (List.getElem?_eq_some_iff.1 hjob).1
    have hset : ({ s with
        events := s.events ++ [(s.slots.getD i {}).event job number plan.jobs.length]
        workers := s.workers.set i (.finished number) } : Pool W).workers = s.workers.set i (.finished number) := rfl
    obtain ⟨hold, hnew⟩ := eventAt_set_self hw hset hjob
    have hperm := filterMap_range_perm hlt hold hnew fun j hj => eventAt_set_ne hset (fun _ _ => rfl) hj
    exact (h.events.append_right _).trans hperm.symm

/-- The worker is through within some steps, when a visit takes at most `cost`. -/
def Affords (cost : Nat) : Worker W → Nat → Prop
  | .waiting, steps => cost + 4 ≤ steps
  | .running program, steps => ∃ n, program.EndsWithin n ∧ n + 3 ≤ steps
  | .filled, steps => 2 ≤ steps
  | .counted _, steps => 1 ≤ steps
  | .finished _, _ => True

/-- Each worker is through within the steps that it is given. -/
structure Bounded (plan : Plan W) (cost : Nat) (steps : Nat → Nat) (s : Pool W) : Prop where
  workers : s.workers.length = plan.jobs.length
  affords : ∀ (i : Nat) (worker : Worker W), s.workers[i]? = some worker → Affords cost worker (steps i)

theorem bounded_start (cost : Nat) (world : W) : Bounded plan cost (fun _ => cost + 4) (start plan world) where
  workers := by simp [start]
  affords i worker h := by
    obtain ⟨_, -, hw⟩ := List.mem_map.1 (List.mem_of_getElem? h)
    exact hw ▸ Nat.le_refl _

/-- A worker that moves on uses one step. -/
theorem Bounded.set {cost : Nat} {steps : Nat → Nat} (h : Bounded plan cost steps s) {worker worker' : Worker W}
    (hw : s.workers[i]? = some worker) (hset : s'.workers = s.workers.set i worker') {left : Nat}
    (hleft : left < steps i) (haffords : Affords cost worker' left) :
    ∃ left, Bounded plan cost left s' ∧
      ∑ j ∈ Finset.range plan.jobs.length, left j < ∑ j ∈ Finset.range plan.jobs.length, steps j := by
  have hlt := (List.getElem?_eq_some_iff.1 hw).1
  refine ⟨Function.update steps i left, ⟨by rw [hset, List.length_set, h.workers], fun j w hj => ?_⟩, ?_⟩
  · by_cases hij : j = i
    · subst hij
      rw [hset, List.getElem?_set_self hlt, Option.some.injEq] at hj
      simpa [← hj] using haffords
    · rw [hset, List.getElem?_set_ne (Ne.symm hij)] at hj
      simpa [hij] using h.affords j w hj
  · refine Finset.sum_lt_sum (fun j _ => ?_) ⟨i, by simpa [← h.workers] using hlt, by simpa using hleft⟩
    by_cases hij : j = i
    · subst hij
      simpa using hleft.le
    · simp [hij]

/-- **One step uses one of the steps that are left.** -/
theorem Bounded.step {cost : Nat} (hvisit : ∀ job ∈ plan.jobs, (plan.visit job).EndsWithin cost) {steps : Nat → Nat}
    (h : Bounded plan cost steps s) (hs : Step plan s i s') :
    ∃ left, Bounded plan cost left s' ∧
      ∑ j ∈ Finset.range plan.jobs.length, left j < ∑ j ∈ Finset.range plan.jobs.length, steps j := by
  cases hs with
  | start hjob hw _ =>
    have hcost : cost + 4 ≤ steps i := h.affords i _ hw
    exact h.set hw rfl (Nat.lt_of_succ_le hcost) ⟨cost, hvisit _ (List.mem_of_getElem? hjob), Nat.le_refl _⟩
  | act hw =>
    obtain ⟨n, hends, hn⟩ := h.affords i _ hw
    cases n with
    | zero => exact hends.elim
    | succ n => exact h.set hw rfl (show n + 3 < steps i by omega) ⟨n, hends s.world, Nat.le_refl _⟩
  | fill hw =>
    obtain ⟨n, -, hn⟩ := h.affords i _ hw
    exact h.set hw rfl (show 2 < steps i by omega) (Nat.le_refl 2)
  | count hw =>
    have htwo : 2 ≤ steps i := h.affords i _ hw
    exact h.set hw rfl htwo (Nat.le_refl 1)
  | emit _ hw =>
    have hone : 1 ≤ steps i := h.affords i _ hw
    exact h.set hw rfl hone trivial

/-- **A run is no longer than the steps that its workers have.** -/
theorem Bounded.length_le {cost : Nat} (hvisit : ∀ job ∈ plan.jobs, (plan.visit job).EndsWithin cost)
    {choices : List Nat} : ∀ {s : Pool W} {steps : Nat → Nat}, Bounded plan cost steps s →
      s.follow plan choices = some s' → choices.length ≤ ∑ j ∈ Finset.range plan.jobs.length, steps j := by
  induction choices with
  | nil => intro s steps _ _; exact Nat.zero_le _
  | cons i choices ih =>
    intro s steps hs h
    obtain ⟨s₁, h₁, h⟩ := Option.bind_eq_some_iff.1 h
    obtain ⟨left, hleft, hlt⟩ := hs.step hvisit (step_of_advance h₁)
    exact Nat.lt_of_le_of_lt (ih hleft h) hlt

theorem length_choices_le {cost : Nat} (hvisit : ∀ job ∈ plan.jobs, (plan.visit job).EndsWithin cost) {world : W}
    {choices : List Nat} (h : (start plan world).follow plan choices = some s) :
    choices.length ≤ (cost + 4) * plan.jobs.length := by
  have := (bounded_start cost world).length_le hvisit h
  simpa [Nat.mul_comm] using this

theorem advance_of_active (hlen : s.workers.length = plan.jobs.length) {worker : Worker W}
    (hw : s.workers[i]? = some worker) (hactive : worker.isActive = true) : (s.advance plan i).isSome = true := by
  have hlt : i < plan.jobs.length := hlen ▸ (List.getElem?_eq_some_iff.1 hw).1
  unfold advance
  rw [List.getElem?_eq_getElem hlt, hw]
  cases worker with
  | running program => cases program <;> rfl
  | waiting | finished => cases hactive
  | _ => rfl

/-- **A pool that is not through can go on.** -/
theorem exists_advance (hlimit : 0 < plan.limit) (hlen : s.workers.length = plan.jobs.length)
    (h : s.isFinished = false) : ∃ i, (s.advance plan i).isSome = true := by
  by_cases hactive : ∃ worker ∈ s.workers, worker.isActive = true
  · obtain ⟨worker, hmem, hactive⟩ := hactive
    obtain ⟨i, hi⟩ := List.mem_iff_getElem?.1 hmem
    exact ⟨i, advance_of_active hlen hi hactive⟩
  · -- all workers wait or are through, so the first that waits may start
    have hidle : s.workers.countP Worker.isActive = 0 :=
      List.countP_eq_zero.2 fun worker hmem ha => hactive ⟨worker, hmem, ha⟩
    obtain ⟨worker, hmem, hworker⟩ : ∃ worker ∈ s.workers, worker.isWaiting = true := by
      obtain ⟨worker, hmem, hf⟩ := List.all_eq_false.1 h
      refine ⟨worker, hmem, ?_⟩
      by_contra hwait
      exact hactive ⟨worker, hmem, by simp [Worker.isActive, hwait, hf]⟩
    have hlt : s.workers.findIdx Worker.isWaiting < s.workers.length := List.findIdx_lt_length.2 ⟨worker, hmem, hworker⟩
    have hfirst := List.findIdx_getElem (w := hlt)
    refine ⟨s.workers.findIdx Worker.isWaiting, ?_⟩
    have hmay : s.mayStart plan.limit (s.workers.findIdx Worker.isWaiting) = true := by
      simp only [mayStart, hidle, hlimit, decide_true, Bool.and_true, List.all_eq_true]
      intro w hw
      obtain ⟨j, hj, rfl⟩ := List.mem_take_iff_getElem.1 hw
      simp [List.not_of_lt_findIdx (Nat.lt_of_lt_of_le hj (Nat.min_le_left _ _))]
    have hw : s.workers[s.workers.findIdx Worker.isWaiting]? = some .waiting := by
      rw [List.getElem?_eq_getElem hlt]
      revert hfirst
      cases s.workers[s.workers.findIdx Worker.isWaiting] <;> simp [Worker.isWaiting]
    unfold advance
    rw [List.getElem?_eq_getElem (hlen ▸ hlt), hw]
    simp [hmay]

end Pool

end CastAudit.Run
