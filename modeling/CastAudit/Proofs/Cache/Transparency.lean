import CastAudit.Proofs.Cache.Entries
import CastAudit.Proofs.Disk.Opening

/-!
# Histories of a cache

A cache is opened on a directory without entries, or on none at all, and then runs over listings share it. Between
the runs logs come, change and go, files of the cache are lost or spoilt, and the cache is opened again. However long
that goes on, each run gives what a run without a cache gives on the same files.

* `Disturbed` — what others may do to the files between two runs, and `disturbed_opened`: opening does no more;
* `Course` — a run through the cache under some order of the workers' steps;
* `Reached` — the worlds that a history leads to, and `kept_of_reached`: all of them satisfy the invariant `Kept`;
* `follow_transparent` — the cache shows in the counters of hits and faults alone;
* `play` — a run that checks on its way that the logs rest, and is a `Course` by `course_of_play`.
-/

namespace CastAudit.Run

open Disk (Machine)

/-! ## what happens between runs -/

/-- Files were changed by others. Whatever they did, no file of the cache holds an entry that it did not hold before:
its bytes may be gone, unreadable, not to be unpacked or an entry of another version. -/
structure Disturbed (directory : Text) (visits : Visit → Prop) (before after : Machine) : Prop where
  tree : after.tree.WellFormed
  files : ∀ v, visits v → ∀ entry, Stored after directory v.key entry → Stored before directory v.key entry

/-- The world with a cache that was opened on a machine, if it can be opened. -/
def World.opened? (directory : Text) (capacity : Int) (machine : Machine) : Option World :=
  match (Cache.openAt directory capacity : StateM Machine _).run machine with
  | (.ok cache, machine') => some ⟨machine', cache.recent⟩
  | (.error _, _) => none

/-- A cache is opened with an empty memory, and its directory is made if it has one. -/
theorem opened?_eq_some {directory : Text} {capacity : Int} {machine : Machine} {world : World}
    (h : World.opened? directory capacity machine = some world) :
    world.recent.items = [] ∧ (world.machine = machine ∨ directory ≠ [] ∧
      world.machine = ((Disk.makeDirectories (Cache.folder directory) : StateM Machine _).run machine).2) := by
  unfold World.opened? Cache.openAt at h
  simp only at h
  split at h
  · next cache machine' hrun =>
    split at hrun
    · cases hrun
      cases h
      exact ⟨rfl, .inl rfl⟩
    · next hd =>
      simp only [Machine.run_seq] at hrun
      revert hrun
      cases (Disk.makeDirectories (Cache.folder directory) : StateM Machine _).run machine with
      | mk answer made =>
        intro hrun
        cases answer with
        | error e => cases hrun
        | ok u =>
          cases hrun
          cases h
          exact ⟨rfl, .inr ⟨by simpa using hd, rfl⟩⟩
  · cases h

/-- **Opening a cache adds no entry.** -/
theorem disturbed_opened {directory : Text} (visits : Visit → Prop) {capacity : Int} {machine : Machine}
    {world : World} (h : World.opened? directory capacity machine = some world) (hwf : machine.tree.WellFormed) :
    Disturbed directory visits machine world.machine := by
  rcases (opened?_eq_some h).2 with hsame | ⟨hd, hmade⟩
  · rw [hsame]
    exact ⟨hwf, fun _ _ _ h => h⟩
  · have hgrown := Disk.grown_makeDirectoriesFrom (Path.ancestors (Cache.folder directory)) machine
    rw [hmade]
    refine ⟨hgrown.wellFormed hwf, fun v _ entry ⟨_, bytes, hread, hrest⟩ => ⟨hd, bytes, ?_, hrest⟩⟩
    exact Disk.Tree.readFile_of_grown hgrown hwf (Cache.parts_fileOf hd v.isKey).2 hread

/-! ## histories -/

/-- The logs of a listing read as they do in another world. -/
def Resting (listing : Listing) (world w : World) : Prop :=
  ∀ job ∈ listing.jobs, w.machine.tree.readFile job.path = world.machine.tree.readFile job.path

instance (listing : Listing) (world : World) : DecidablePred (Resting listing world) := fun w =>
  inferInstanceAs (Decidable (∀ job ∈ listing.jobs,
    w.machine.tree.readFile job.path = world.machine.tree.readFile job.path))

/-- A run through the cache, up to some point. The profile is known, package ids hold no zero byte, the logs that can
be read are among the visits, and no log changes while the run is under way. The last leaves out a log in the folder of
the cache, which the run itself may write to; if there is none, the run cannot change its logs (`Course.of_apart`). -/
structure Course (directory : Text) (visits : Visit → Prop) (profile : Profile) (listing : Listing) (wanted : Int)
    (processors : Nat) (world : World) (choices : List Nat) (s : Pool World) : Prop where
  known : profile ∈ Profile.all
  packages : ∀ job ∈ listing.jobs, 0 ∉ job.packageId
  visited : ∀ job ∈ listing.jobs, ∀ content, world.machine.tree.readFile job.path = .ok content →
    visits ⟨profile, job, content⟩
  steps : (Pool.start (plan profile (some directory) listing wanted processors) world).follow
    (plan profile (some directory) listing wanted processors) choices = some s
  rest : Pool.Throughout (plan profile (some directory) listing wanted processors) (Resting listing world)
    (Pool.start (plan profile (some directory) listing wanted processors) world) choices

/-- The worlds that a history of the cache leads to. -/
inductive Reached (directory : Text) (visits : Visit → Prop) : World → Prop where
  /-- The cache is opened for the first time, and none of its files holds an entry. -/
  | opened {machine : Machine} {capacity : Int} {world : World} (hwf : machine.tree.WellFormed)
      (hblank : ∀ v, visits v → ∀ entry, ¬ Stored machine directory v.key entry)
      (h : World.opened? directory capacity machine = some world) : Reached directory visits world
  /-- The cache is opened again: its memory is lost. -/
  | reopened {world world' : World} {capacity : Int} (hbefore : Reached directory visits world)
      (h : World.opened? directory capacity world.machine = some world') : Reached directory visits world'
  | disturbed {world : World} {machine' : Machine} (hbefore : Reached directory visits world)
      (h : Disturbed directory visits world.machine machine') :
      Reached directory visits { world with machine := machine' }
  | ran {world : World} {profile : Profile} {listing : Listing} {wanted : Int} {processors : Nat} {choices : List Nat}
      {s : Pool World} (hbefore : Reached directory visits world)
      (h : Course directory visits profile listing wanted processors world choices s) :
      Reached directory visits s.world

section Histories

variable {directory : Text} {visits : Visit → Prop} (hf : Faithful visits)

theorem Kept.disturbed {w : World} (hw : Kept directory visits w) {machine' : Machine}
    (h : Disturbed directory visits w.machine machine') : Kept directory visits { w with machine := machine' } where
  memory := hw.memory
  files v hv hp entry hstored := hw.files v hv hp entry (h.files v hv entry hstored)
  tree := h.tree

theorem Holding.opened {good : Visit → Cache.Entry → Prop} {w w' : World} (hw : Holding directory good w) {capacity : Int}
    (h : World.opened? directory capacity w.machine = some w') : Holding directory good w' := by
  have hopened := disturbed_opened (fun _ => True) h hw.tree
  refine ⟨fun v entry hmem => ?_, fun v entry hstored => hw.files v entry (hopened.files v trivial entry hstored),
    hopened.tree⟩
  simp [(opened?_eq_some h).1] at hmem

theorem Kept.opened {w w' : World} (hw : Kept directory visits w) {capacity : Int}
    (h : World.opened? directory capacity w.machine = some w') : Kept directory visits w' :=
  kept_iff_holding.2 ((kept_iff_holding.1 hw).opened h)

include hf

/-- **A run keeps the invariant**, and each worker through with its log has an answer in which the cache does not
show. -/
theorem Course.sound {profile : Profile} {listing : Listing} {wanted : Int} {processors : Nat} {world : World}
    {choices : List Nat} {s : Pool World}
    (h : Course directory visits profile listing wanted processors world choices s) (hw : Kept directory visits world) :
    Pool.Sound (plan profile (some directory) listing wanted processors) (Resting listing world)
      (Kept directory visits) (Transparent world.machine.tree.readFile profile) s := by
  refine Pool.sound_follow (fun job hjob => ?_) hw h.steps h.rest
  exact visit_transparent hf h.known (h.packages job hjob) (fun w hrest => hrest job hjob) (h.visited job hjob)

/-- **The invariant holds throughout a history.** -/
theorem kept_of_reached {world : World} (h : Reached directory visits world) : Kept directory visits world := by
  induction h with
  | @opened machine capacity world hwf hblank h =>
    have hkept : Kept directory visits { machine } :=
      ⟨fun v _ _ entry hmem => by simp at hmem, fun v hv _ entry hstored => absurd hstored (hblank v hv entry), hwf⟩
    exact hkept.opened h
  | reopened _ h hw => exact hw.opened h
  | disturbed _ h hw => exact hw.disturbed h
  | ran _ h hw => exact (h.sound hf hw).world

end Histories

/-! ## what a run gives -/

/-- Without what the outcomes say of the cache, the counters of hits and faults are zero. -/
theorem ofOutcomes_uncached (listing : Listing) (outcomes : List Outcome) :
    RunResult.ofOutcomes listing (outcomes.map Outcome.uncached) =
      { RunResult.ofOutcomes listing outcomes with cached := 0, cacheFaults := 0 } := by
  simp [RunResult.ofOutcomes, List.filter_map, Function.comp_def, Outcome.uncached, List.flatMap_map,
    List.zip_map_right]

/-- **The cache is transparent.** After any history, whatever worker takes the next step, a run through the cache has
at most ten steps for each log and can go on until all workers are through. Then its result is that of a run without
a cache on the same files, but for the numbers of hits and faults, and only logs with a clean scan were answered from
the cache. -/
theorem follow_transparent {directory : Text} {visits : Visit → Prop} (hf : Faithful visits) {world : World}
    (hreached : Reached directory visits world) {profile : Profile} {listing : Listing} {wanted : Int}
    {processors : Nat} {choices : List Nat} {s : Pool World}
    (h : Course directory visits profile listing wanted processors world choices s) :
    choices.length ≤ 10 * listing.logCount ∧
    (s.isFinished = false →
      ∃ i, (s.advance (plan profile (some directory) listing wanted processors) i).isSome = true) ∧
    (s.isFinished = true →
      { RunResult.ofOutcomes listing s.slots with cached := 0, cacheFaults := 0 } =
        ((perform profile none listing : StateM Machine _).run world.machine).1.1 ∧
      ∀ p ∈ listing.jobs.zip s.slots, p.2.cached = true →
        ∃ content, world.machine.tree.readFile p.1.path = .ok content ∧
          isClean (scanLog profile p.1 content) = true) := by
  have hsound := h.sound hf (kept_of_reached hf hreached)
  rw [← length_jobs]
  refine ⟨Pool.length_choices_le (fun job _ => visit_some_endsWithin directory profile job) h.steps,
    Pool.exists_advance (limit_pos ..) hsound.workers, fun hfinished => ?_⟩
  have hslots := hsound.forall₂_slots hfinished
  -- slot by slot, and but for who answered, what the cache gives is what a scan gives
  have huncached : s.slots.map Outcome.uncached =
      listing.jobs.map (Outcome.plain world.machine.tree.readFile profile) := by
    have heq : List.Forall₂ Eq (s.slots.map Outcome.uncached)
        (listing.jobs.map (Outcome.plain world.machine.tree.readFile profile)) :=
      List.forall₂_map_left_iff.2 (List.forall₂_map_right_iff.2 (hslots.flip.imp fun _ _ h => h.1))
    rwa [List.forall₂_eq_eq_eq] at heq
  refine ⟨?_, fun p hp => (List.forall₂_zip hslots hp).2⟩
  rw [← ofOutcomes_uncached, huncached, perform_eq]

/-- A cache is opened and a run made through it, if the logs rest and read as they do in another world. -/
def play (directory : Text) (profile : Profile) (listing : Listing) (wanted : Int) (processors : Nat) (world₀ : World)
    (before : Machine) (choices : List Nat) : Option (World × Pool World) :=
  let run := plan profile (some directory) listing wanted processors
  (World.opened? directory 0 before).bind fun world => ((Pool.start run world).follow run choices).bind fun s =>
    if Resting listing world₀ world ∧ Pool.Throughout run (Resting listing world) (Pool.start run world) choices
    then some (world, s) else none

theorem course_of_play (visits : Visit → Prop) {directory : Text} {profile : Profile} {listing : Listing} {wanted : Int}
    {processors : Nat} {world₀ world : World} {before : Machine} {choices : List Nat} {s : Pool World}
    (hknown : profile ∈ Profile.all) (hpackages : ∀ job ∈ listing.jobs, 0 ∉ job.packageId)
    (hvisited : ∀ job ∈ listing.jobs, ∀ content, world₀.machine.tree.readFile job.path = .ok content →
      visits ⟨profile, job, content⟩)
    (h : play directory profile listing wanted processors world₀ before choices = some (world, s)) :
    World.opened? directory 0 before = some world ∧ Resting listing world₀ world ∧
      Course directory visits profile listing wanted processors world choices s := by
  obtain ⟨world', hopened, h⟩ := Option.bind_eq_some_iff.1 h
  obtain ⟨s', hsteps, h⟩ := Option.bind_eq_some_iff.1 h
  split at h
  · next hrest =>
    cases h
    refine ⟨hopened, hrest.1, hknown, hpackages, fun job hjob content hcontent => ?_, hsteps, hrest.2⟩
    exact hvisited job hjob content ((hrest.1 job hjob).symm.trans hcontent)
  · cases h

/-- A log with a finding and one that must not be read. The first run through the cache stores the scan of the first
log; then the cache is opened again, and the second run, with both workers at once, takes that scan from the disk. -/
theorem follow_transparent_reopened :
    let log : Text := Text.join [Text.lf] ["warning: Here is cast(fn f>A>B=>m>L)", "--> s"]
    let machine : Machine := { tree :=
      { nodes := [(["a.log"], .file 0), (["b.log"], .file 1)], contents := #[log, log], unreadable := [(1, .denied)] } }
    let listing : Listing := [⟨"p", ["a.log", "b.log"]⟩]
    let profile : Profile := ⟨"cast", [.cast], "cast.log"⟩
    let visited : Visit := ⟨profile, ⟨"p", "a.log"⟩, log⟩
    let run := plan profile (some "cache") listing 2 8
    ∃ world s, Faithful (· = visited) ∧ Reached "cache" (· = visited) world ∧ Resting listing { machine } world ∧
      (Pool.start run world).follow run [0, 1, 1, 0, 0, 1, 0, 1, 1, 0, 0, 0, 0] = some s ∧ s.isFinished = true ∧
      (RunResult.ofOutcomes listing s.slots).cached = 1 ∧
      { RunResult.ofOutcomes listing s.slots with cached := 0, cacheFaults := 0 } =
        ((perform profile none listing : StateM Machine _).run world.machine).1.1 := by
  intro log machine listing profile visited run
  have hplayed : ((play "cache" profile listing 2 8 { machine } machine [0, 0, 0, 0, 0, 0, 0, 0, 0, 1, 1, 1, 1, 1]).bind
      fun p => (play "cache" profile listing 2 8 { machine } p.2.world.machine [0, 1, 1, 0, 0, 1, 0, 1, 1, 0, 0, 0, 0]).map
        fun q => (q.2.isFinished, (RunResult.ofOutcomes listing q.2.slots).cached)) = some (true, 1) := by decide +kernel
  have hvisited : ∀ job ∈ listing.jobs, ∀ content, machine.tree.readFile job.path = .ok content →
      (⟨profile, job, content⟩ : Visit) = visited := by
    have hread : machine.tree.readFile "a.log" = .ok log ∧
      machine.tree.readFile "b.log" = .error (.onPath .opening "b.log" .denied) := by decide +kernel
    intro job hjob content hcontent
    rcases List.mem_pair.1 hjob with rfl | rfl
    · cases hread.1.symm.trans hcontent
      rfl
    · cases hread.2.symm.trans hcontent
  have hfaithful : Faithful (· = visited) :=
    ⟨by rintro v v' rfl rfl _; rfl, by rintro v rfl _; decide +kernel⟩
  have hwf : machine.tree.WellFormed := Disk.Tree.wellFormed_of_nodes (by decide) (by simp [machine])
  have hblank : ∀ v, v = visited → ∀ entry, ¬ Stored machine "cache" v.key entry := by
    have hfile : (machine.tree.readFile (Cache.fileOf "cache" visited.key)).isOk = false := by decide +kernel
    rintro v rfl entry ⟨-, bytes, h, -⟩
    simp [h, Except.isOk, Except.toBool] at hfile
  obtain ⟨⟨world₁, s₁⟩, h₁, hsecond⟩ := Option.bind_eq_some_iff.1 hplayed
  obtain ⟨⟨world₂, s₂⟩, h₂, hfinished⟩ := Option.map_eq_some_iff.1 hsecond
  obtain ⟨hopened₁, -, hran₁⟩ := course_of_play (· = visited) (.tail _ (.head _)) (by decide) hvisited h₁
  obtain ⟨hopened₂, hrest, hran₂⟩ := course_of_play (· = visited) (.tail _ (.head _)) (by decide) hvisited h₂
  have hreached : Reached "cache" (· = visited) world₂ :=
    ((Reached.opened hwf hblank hopened₁).ran hran₁).reopened hopened₂
  obtain ⟨hfinished, hcached⟩ := Prod.mk.inj hfinished
  exact ⟨world₂, s₂, hfaithful, hreached, hrest, hran₂.steps, hfinished, hcached,
    ((follow_transparent hfaithful hreached hran₂).2.2 hfinished).1⟩

end CastAudit.Run
