import CastAudit.Proofs.Cache.Separation
import CastAudit.Proofs.Run.Schedules

/-!
# Runs, serial or not

A run visits the logs one after the other, or has workers visit them at the same time in some order of their steps.
What is kept by every visit is kept by the run, whichever way it is made.

* `Agrees q p` — a serial program does what the program of a worker does when no other worker interferes, and
  `agrees_visit` — so do visits;
* `Visiting` — the ways to make a run, and `Visiting.run`, the run on a machine;
* `Visiting.exists_follow` — however a run is made, it is one of the orders of a pool, and `Visiting.run_sound` — so it
  keeps what each visit keeps;
* `Visiting.run_uncached`, `Visiting.run_cached` — the result of a run without a cache, and of one with a cache, and
  `Visiting.run_reached` — where the latter leaves the cache.
-/

namespace CastAudit.Run

open Disk (Machine Tree)

/-! ## a worker alone -/

/-- The programs of workers that a single one runs alone, with the memory of the cache as its state. -/
abbrev Serial := StateT (Cache.Recent Cache.Entry) (StateM Machine)

/-- A serial program does what a worker does alone. -/
def Agrees {α : Type} (q : Serial α) (p : Program World α) : Prop :=
  ∀ w : World, (q.run w.recent).run w.machine = (((p.run w).1, (p.run w).2.recent), (p.run w).2.machine)

section Agrees

variable {α β : Type}

theorem agrees_pure (a : α) : Agrees (pure a) (pure a) := fun _ => rfl

theorem Agrees.bind {q : Serial α} {p : Program World α} {f : α → Serial β} {g : α → Program World β}
    (h : Agrees q p) (hrest : ∀ a, Agrees (f a) (g a)) : Agrees (q >>= f) (p >>= g) := by
  intro w
  have hrun : ((q >>= f).run w.recent).run w.machine =
      ((f ((q.run w.recent).run w.machine).1.1).run ((q.run w.recent).run w.machine).1.2).run
        ((q.run w.recent).run w.machine).2 := rfl
  rw [hrun, h w, Program.run_bind]
  exact hrest (p.run w).1 (p.run w).2

theorem agrees_readFile (path : Text) : Agrees (Disk.Host.readFile path) (Disk.Host.readFile path) := fun _ => rfl

theorem agrees_fetch (key : Text) : Agrees (Cache.Shared.fetch key) (Cache.Shared.fetch key) := fun _ => rfl

theorem agrees_keep (key : Text) (entry : Cache.Entry) :
    Agrees (Cache.Shared.keep key entry) (Cache.Shared.keep key entry) := fun _ => rfl

/-- Nobody waits for the lock when nobody else is there. -/
theorem Agrees.exclusively {q : Serial α} {p : Program World α} (h : Agrees q p) :
    Agrees (Cache.Shared.exclusively q) (Cache.Shared.exclusively p) := h

theorem agrees_lookUp (directory key : Text) : Agrees (Cache.lookUp directory key) (Cache.lookUp directory key) := by
  refine (agrees_fetch key).bind fun recalled => ?_
  cases recalled with
  | some entry => exact agrees_pure _
  | none =>
    simp only
    split
    · exact agrees_pure _
    · refine (agrees_readFile _).bind fun answer => ?_
      cases answer with
      | error e => exact agrees_pure _
      | ok bytes =>
        simp only
        cases Cache.Entry.unpack? bytes with
        | none => exact agrees_pure _
        | some entry =>
          simp only
          split
          · exact (agrees_keep key entry).bind fun _ => agrees_pure _
          · exact agrees_pure _

theorem agrees_save (target bytes : Text) : Agrees (Cache.save target bytes) (Cache.save target bytes) := by
  have hwrite : Agrees (Disk.Host.writeTemporary (Path.directory target) "tmp-" bytes)
    (Disk.Host.writeTemporary (Path.directory target) "tmp-" bytes) := fun _ => rfl
  refine hwrite.bind fun answer => ?_
  cases answer with
  | error e => exact agrees_pure _
  | ok source =>
    have hrename : Agrees (Disk.Host.rename source target) (Disk.Host.rename source target) := fun _ => rfl
    refine hrename.bind fun answer => ?_
    cases answer with
    | ok u => exact agrees_pure _
    | error e =>
      have hremove : Agrees (Disk.Host.removeFile source) (Disk.Host.removeFile source) := fun _ => rfl
      exact hremove.bind fun _ => agrees_pure _

theorem agrees_store (directory key : Text) (entry : Cache.Entry) :
    Agrees (Cache.store directory key entry) (Cache.store directory key entry) := by
  refine (agrees_keep key _).bind fun _ => ?_
  split
  · exact agrees_pure _
  · exact (agrees_save _ _).exclusively

theorem agrees_visitCached (profile : Profile) (directory : Text) (job : Job) (content : Text) :
    Agrees (visitCached profile directory job content) (visitCached profile directory job content) := by
  have hscan (clean : Bool) (key : Text) (entry : Cache.Entry) (f : Except Fault Unit → Outcome) (o : Outcome) :
      Agrees (if clean then do return f (← Cache.store directory key entry) else return o)
        (if clean then do return f (← Cache.store directory key entry) else return o) := by
    cases clean
    · exact agrees_pure o
    · exact (agrees_store directory key entry).bind fun _ => agrees_pure _
  refine (agrees_lookUp directory _).bind fun answer => ?_
  cases answer with
  | error fault => exact hscan _ _ _ _ _
  | ok found =>
    cases found with
    | none => exact hscan _ _ _ _ _
    | some entry => exact agrees_pure _

/-- **A serial visit is that of a worker alone.** -/
theorem agrees_visit (profile : Profile) (directory : Option Text) (job : Job) :
    Agrees (visit profile directory job) (visit profile directory job) := by
  refine (agrees_readFile job.path).bind fun answer => ?_
  cases answer with
  | error e => exact agrees_pure _
  | ok content =>
    cases directory with
    | none => exact agrees_pure _
    | some d => exact agrees_visitCached profile d job content

end Agrees

/-- **Serial visits are those of workers in turn.** -/
theorem visitAll_eq_inTurn (profile : Profile) (directory : Option Text) (jobs : List Job) : ∀ w : World,
    ((visitAll profile directory jobs : Serial _).run w.recent).run w.machine =
      let ended := inTurn (visit profile directory) jobs w
      ((ended.1, ended.2.recent), ended.2.machine) := by
  induction jobs with
  | nil => exact fun _ => rfl
  | cons job jobs ih =>
    intro w
    have hcons : ((visitAll profile directory (job :: jobs) : Serial _).run w.recent).run w.machine =
        let first := ((visit profile directory job : Serial _).run w.recent).run w.machine
        let others := ((visitAll profile directory jobs : Serial _).run first.1.2).run first.2
        ((first.1.1 :: others.1.1, others.1.2), others.2) := rfl
    rw [hcons, agrees_visit profile directory job w]
    simp only [ih ((visit profile directory job : Program World _).run w).2]
    rfl

/-! ## runs -/

/-- How the logs of a run are visited: one after the other, or by workers at the same time. Then a number of workers
may be wished for, there are so many processors, and the choices say which worker takes the next step. -/
inductive Visiting where
  | oneByOne
  | atOnce (wanted : Int) (processors : Nat) (choices : List Nat)
deriving Repr, DecidableEq

/-- The memory of a cache; without a cache there is none. -/
def memoryOf (cache : Option Cache) : Cache.Recent Cache.Entry := (cache.map Cache.recent).getD { capacity := 0 }

/-- A run over a listing. Choices that do not bring all workers to an end are those of a run called off. -/
def Visiting.run (visiting : Visiting) (profile : Profile) (cache : Option Cache) (listing : Listing) :
    StateM Machine (Except Fault (RunResult × List Progress)) :=
  match visiting with
  | .oneByOne => do
    let (result, events, _) ← Run.perform profile cache listing
    return .ok (result, events)
  | .atOnce wanted processors choices => fun machine =>
    let work := plan profile (cache.map Cache.directory) listing wanted processors
    match (Pool.start work ⟨machine, memoryOf cache⟩).follow work choices with
    | none => (.error .cancelled, machine)
    | some s =>
      if s.isFinished then (.ok (RunResult.ofOutcomes listing s.slots, s.events), s.world.machine)
      else (.error .cancelled, s.world.machine)

section Runs

variable {visiting : Visiting} {profile : Profile} {cache : Option Cache} {listing : Listing} {machine after : Machine}
  {result : RunResult} {events : List Progress}

/-- **Every run is one of the orders of a pool**, a serial one included. -/
theorem Visiting.exists_follow (h : (visiting.run profile cache listing).run machine = (.ok (result, events), after)) :
    ∃ wanted processors choices s,
      (Pool.start (plan profile (cache.map Cache.directory) listing wanted processors) ⟨machine, memoryOf cache⟩).follow
        (plan profile (cache.map Cache.directory) listing wanted processors) choices = some s ∧
      s.isFinished = true ∧ result = RunResult.ofOutcomes listing s.slots ∧ s.world.machine = after := by
  cases visiting with
  | oneByOne =>
    obtain ⟨choices, s, hfollow, hfinished, hworld, hslots⟩ := Pool.exists_follow_inTurn
      (limit_pos profile (cache.map Cache.directory) listing 1 1) (⟨machine, memoryOf cache⟩ : World)
    have hperform : (Visiting.oneByOne.run profile cache listing).run machine =
        let all := ((visitAll profile (cache.map Cache.directory) listing.jobs : Serial _).run (memoryOf cache)).run
          machine
        (.ok (RunResult.ofOutcomes listing all.1.1, progress listing.jobs all.1.1), all.2) := rfl
    have hall := visitAll_eq_inTurn profile (cache.map Cache.directory) listing.jobs ⟨machine, memoryOf cache⟩
    simp only [hperform, hall] at h
    obtain ⟨hanswer, hafter⟩ := Prod.mk.inj h
    refine ⟨1, 1, choices, s, hfollow, hfinished, ?_, ?_⟩
    · rw [hslots, ← (Prod.mk.inj (Except.ok.inj hanswer)).1]
      rfl
    · rw [hworld, ← hafter]
      rfl
  | atOnce wanted processors choices =>
    have hpool : ((Visiting.atOnce wanted processors choices).run profile cache listing).run machine =
        match (Pool.start (plan profile (cache.map Cache.directory) listing wanted processors)
            ⟨machine, memoryOf cache⟩).follow (plan profile (cache.map Cache.directory) listing wanted processors)
            choices with
        | none => (.error .cancelled, machine)
        | some s =>
          if s.isFinished then (.ok (RunResult.ofOutcomes listing s.slots, s.events), s.world.machine)
          else (.error .cancelled, s.world.machine) := rfl
    rw [hpool] at h
    split at h
    · cases h
    · next s hfollow =>
      split at h
      · next hfinished =>
        cases h
        exact ⟨wanted, processors, choices, s, hfollow, hfinished, rfl, rfl⟩
      · cases h

/-- **A run keeps what each visit keeps**, however it is made, and merges what the visits answer. -/
theorem Visiting.run_sound {kept : World → Prop} {good : Job → Outcome → Prop}
    (h : (visiting.run profile cache listing).run machine = (.ok (result, events), after))
    (hvisit : ∀ job ∈ listing.jobs,
      (visit profile (cache.map Cache.directory) job : Program World Outcome).Keeps (fun _ => True) kept (good job))
    (hworld : kept ⟨machine, memoryOf cache⟩) :
    ∃ outcomes world, result = RunResult.ofOutcomes listing outcomes ∧ List.Forall₂ good listing.jobs outcomes ∧
      kept world ∧ world.machine = after := by
  obtain ⟨wanted, processors, choices, s, hfollow, hfinished, hresult, hafter⟩ := Visiting.exists_follow h
  have hsound := Pool.sound_follow hvisit hworld hfollow Pool.throughout_true
  exact ⟨s.slots, s.world, hresult, hsound.forall₂_slots hfinished, hsound.world, hafter⟩

/-- **A run without a cache** changes no file, and its result is the reading of the listing. -/
theorem Visiting.run_uncached
    (h : (visiting.run profile none listing).run machine = (.ok (result, events), after)) :
    after = machine ∧
      result = RunResult.ofOutcomes listing (listing.jobs.map (Outcome.plain machine.tree.readFile profile)) := by
  obtain ⟨outcomes, world, hresult, hgood, hworld, hafter⟩ :=
    Visiting.run_sound h (fun job _ => visit_keeps profile ⟨machine, memoryOf none⟩ job) rfl
  rw [hworld] at hafter
  refine ⟨hafter.symm, ?_⟩
  have heq : List.Forall₂ Eq (listing.jobs.map (Outcome.plain machine.tree.readFile profile)) outcomes :=
    List.forall₂_map_left_iff.2 (hgood.imp fun _ _ h => h.symm)
  rw [List.forall₂_eq_eq_eq] at heq
  rw [hresult, heq]

/-- A serial run without a cache always ends. -/
theorem Visiting.run_oneByOne (profile : Profile) (listing : Listing) (machine : Machine) :
    let outcomes := listing.jobs.map (Outcome.plain machine.tree.readFile profile)
    (Visiting.oneByOne.run profile none listing).run machine =
      (.ok (RunResult.ofOutcomes listing outcomes, progress listing.jobs outcomes), machine) := by
  have hrun : (Visiting.oneByOne.run profile none listing).run machine =
      let all := ((visitAll profile none listing.jobs : Serial _).run { capacity := 0 }).run machine
      (.ok (RunResult.ofOutcomes listing all.1.1, progress listing.jobs all.1.1), all.2) := rfl
  rw [hrun, visitAll_eq]

/-- **A run through a cache** whose entries are right, with no log in its folder: the result is the reading of the
listing, but for the numbers of hits and faults, and the entries are right after it. -/
theorem Visiting.run_cached {c : Cache} {visits : Visit → Prop} (hf : Faithful visits)
    (h : (visiting.run profile (some c) listing).run machine = (.ok (result, events), after))
    (hkept : Kept c.directory visits ⟨machine, c.recent⟩) (hprofile : profile ∈ Profile.all)
    (hapart : Apart c.directory listing machine.tree) (hpackages : ∀ job ∈ listing.jobs, 0 ∉ job.packageId)
    (hvisits : ∀ job ∈ listing.jobs, ∀ content, machine.tree.readFile job.path = .ok content →
      visits ⟨profile, job, content⟩) :
    after.tree.WellFormed ∧ { result with cached := 0, cacheFaults := 0 } =
      RunResult.ofOutcomes listing (listing.jobs.map (Outcome.plain machine.tree.readFile profile)) := by
  have hcalm : Calm listing ⟨machine, c.recent⟩ ⟨machine, c.recent⟩ := ⟨hkept.tree, rfl, fun _ _ => rfl⟩
  obtain ⟨outcomes, world, hresult, hgood, ⟨-, hafterKept⟩, hafter⟩ := Visiting.run_sound h
    (fun job hjob => visit_apart hapart hf hprofile hjob (hpackages job hjob) (hvisits job hjob)) ⟨hcalm, hkept⟩
  refine ⟨hafter ▸ hafterKept.tree, ?_⟩
  have heq : List.Forall₂ Eq (outcomes.map Outcome.uncached)
      (listing.jobs.map (Outcome.plain machine.tree.readFile profile)) :=
    List.forall₂_map_left_iff.2 (List.forall₂_map_right_iff.2 (hgood.flip.imp fun _ _ h => h.1))
  rw [List.forall₂_eq_eq_eq] at heq
  rw [hresult, ← ofOutcomes_uncached, heq]

/-- **A run through a cache is part of its history**, if no log lies in its folder: it leads from a world that was
reached to another one. -/
theorem Visiting.run_reached {c : Cache} {visits : Visit → Prop}
    (h : (visiting.run profile (some c) listing).run machine = (.ok (result, events), after))
    (hreached : Reached c.directory visits ⟨machine, c.recent⟩) (hwf : machine.tree.WellFormed)
    (hprofile : profile ∈ Profile.all) (hapart : Apart c.directory listing machine.tree)
    (hpackages : ∀ job ∈ listing.jobs, 0 ∉ job.packageId)
    (hvisits : ∀ job ∈ listing.jobs, ∀ content, machine.tree.readFile job.path = .ok content →
      visits ⟨profile, job, content⟩) :
    ∃ world, Reached c.directory visits world ∧ Calm listing ⟨machine, c.recent⟩ world ∧ world.machine = after := by
  obtain ⟨wanted, processors, choices, s, hfollow, -, -, hafter⟩ := Visiting.exists_follow h
  have hcourse : Course c.directory visits profile listing wanted processors ⟨machine, c.recent⟩ choices s :=
    Course.of_apart hapart hwf hprofile hpackages hvisits hfollow
  have hcalm : Calm listing ⟨machine, c.recent⟩ ⟨machine, c.recent⟩ := ⟨hwf, rfl, fun _ _ => rfl⟩
  have hsound := Pool.sound_follow (fun job _ => visit_calm hapart profile job) hcalm hfollow Pool.throughout_true
  exact ⟨s.world, hreached.ran hcourse, hsound.world, hafter⟩

end Runs

end CastAudit.Run
