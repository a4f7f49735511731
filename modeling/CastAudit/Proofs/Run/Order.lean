import CastAudit.Proofs.Run.Pool

/-!
# The order of the workers

Without a cache the workers of a run only read, so each outcome depends on the files alone, and the outcomes are
merged in listing order once all workers are through.

* `Outcome.plain read profile job` — the outcome of a log under a function that reads files;
* `Reading read profile listing result` — what the result of a run is, log by log in listing order;
* `follow_reading` — every order of the workers' steps ends, and ends with that result.
-/

namespace CastAudit

open Disk (Machine)

/-! ## one log -/

/-- The path has no file. -/
def isAbsent (read : Text → Except Disk.Error Text) (path : Text) : Bool :=
  match read path with
  | .error e => e.isMissing
  | .ok _ => false

/-- The outcome of a log that is not looked up in a cache. -/
def Outcome.plain (read : Text → Except Disk.Error Text) (profile : Profile) (job : Job) : Outcome :=
  match read job.path with
  | .error e => if e.isMissing then Outcome.absent else Outcome.unreadable job e
  | .ok content => Outcome.ofScan (Run.scanLog profile job content).1 none

namespace Run

/-- **The reading of a listing.** Each log that is there gives the records and failures of its scan, and one that
cannot be read gives a single failure at line 0; all stand in listing order. -/
structure Reading (read : Text → Except Disk.Error Text) (profile : Profile) (listing : Listing) (r : RunResult) :
    Prop where
  missing : r.missing = (listing.jobs.map Job.path).filter (isAbsent read)
  records : r.records = listing.jobs.flatMap fun job =>
    match read job.path with
    | .ok content => (scanLog profile job content).1.records
    | .error _ => []
  failures : r.failures = listing.jobs.flatMap fun job =>
    match read job.path with
    | .ok content => (scanLog profile job content).1.failures
    | .error e =>
      if e.isMissing then [] else [⟨job.packageId, job.path, 0, "failed to read log: " ++ e.message⟩]
  lines : r.lines = Text.sum64 (listing.jobs.map fun job =>
    match read job.path with
    | .ok content => ((scanLog profile job content).1.lines : Int)
    | .error _ => 0)
  headers : r.headers = Text.sum64 (listing.jobs.map fun job =>
    match read job.path with
    | .ok content => ((scanLog profile job content).1.headers : Int)
    | .error _ => 0)
  scanned : r.scanned + r.missing.length = listing.logCount
  packages : r.packages = listing.map fun e => Package.ofId e.packageId
  cached : r.cached = 0
  cacheFaults : r.cacheFaults = 0

section Merge

variable {outcomes : List Outcome}

theorem flatMap_present {β : Type} {f : Outcome → List β} (h : ∀ o ∈ outcomes, o.missing = true → f o = []) :
    (outcomes.filter fun o => !o.missing).flatMap f = outcomes.flatMap f := by
  induction outcomes with
  | nil => rfl
  | cons o outcomes ih =>
    have ih := ih fun o' ho' => h o' (List.mem_cons_of_mem o ho')
    cases hm : o.missing with
    | true => simp [hm, ih, h o (List.mem_cons_self ..) hm]
    | false => simp [hm, ih]

theorem sum64_present {f : Outcome → Int} (h : ∀ o ∈ outcomes, o.missing = true → f o = 0) :
    Text.sum64 ((outcomes.filter fun o => !o.missing).map f) = Text.sum64 (outcomes.map f) := by
  have hsum : ((outcomes.filter fun o => !o.missing).map f).foldr (· + ·) 0 = (outcomes.map f).foldr (· + ·) 0 := by
    induction outcomes with
    | nil => rfl
    | cons o outcomes ih =>
      have ih := ih fun o' ho' => h o' (List.mem_cons_of_mem o ho')
      cases hm : o.missing with
      | true => simp [hm, ih, h o (List.mem_cons_self ..) hm]
      | false => simp [hm, ih]
  rw [Text.sum64, Text.sum64, hsum]

theorem length_jobs (listing : Listing) : listing.jobs.length = listing.logCount := by
  induction listing with
  | nil => rfl
  | cons e listing ih =>
    have hcons : Listing.jobs (e :: listing) = (e.logPaths.map fun p => ⟨e.packageId, p⟩) ++ Listing.jobs listing := rfl
    rw [hcons, List.length_append, List.length_map, ih]
    rfl

end Merge

section Plain

variable (read : Text → Except Disk.Error Text) (profile : Profile)

/-- A log that is not there gives nothing else. -/
theorem plain_of_absent {job : Job} (h : isAbsent read job.path = true) :
    Outcome.plain read profile job = Outcome.absent := by
  unfold isAbsent at h
  unfold Outcome.plain
  cases hr : read job.path with
  | ok content => simp [hr] at h
  | error e =>
    simp only [hr] at h
    simp [h]

theorem missing_plain (job : Job) : (Outcome.plain read profile job).missing = isAbsent read job.path := by
  cases h : isAbsent read job.path with
  | true => rw [plain_of_absent read profile h]; rfl
  | false =>
    unfold isAbsent at h
    unfold Outcome.plain
    cases hr : read job.path with
    | ok content => rfl
    | error e =>
      simp only [hr] at h
      simp [h, Outcome.unreadable]

theorem eq_absent_of_missing (jobs : List Job) :
    ∀ o ∈ jobs.map (Outcome.plain read profile), o.missing = true → o = Outcome.absent := by
  intro o ho hm
  obtain ⟨job, -, rfl⟩ := List.mem_map.1 ho
  exact plain_of_absent read profile (missing_plain read profile job ▸ hm)

/-- A log that does not exist adds nothing to a list, so that it may be read like all others. -/
theorem flatMap_present_plain {β : Type} {f : Outcome → List β} (habsent : f Outcome.absent = []) (jobs : List Job) :
    ((jobs.map (Outcome.plain read profile)).filter fun o => !o.missing).flatMap f =
      jobs.flatMap fun job => f (Outcome.plain read profile job) := by
  rw [flatMap_present fun o ho hm => eq_absent_of_missing read profile jobs o ho hm ▸ habsent, List.flatMap_map]

theorem sum64_present_plain {f : Outcome → Int} (habsent : f Outcome.absent = 0) (jobs : List Job) :
    Text.sum64 (((jobs.map (Outcome.plain read profile)).filter fun o => !o.missing).map f) =
      Text.sum64 (jobs.map fun job => f (Outcome.plain read profile job)) := by
  rw [sum64_present fun o ho hm => eq_absent_of_missing read profile jobs o ho hm ▸ habsent, List.map_map]
  rfl

/-- What the outcome of a log holds. -/
theorem plain_fields (job : Job) :
    ((Outcome.plain read profile job).records =
      match read job.path with
      | .ok content => (scanLog profile job content).1.records
      | .error _ => []) ∧
    ((Outcome.plain read profile job).failures =
      match read job.path with
      | .ok content => (scanLog profile job content).1.failures
      | .error e =>
        if e.isMissing then [] else [⟨job.packageId, job.path, 0, "failed to read log: " ++ e.message⟩]) ∧
    ((Outcome.plain read profile job).lines =
      match read job.path with
      | .ok content => ((scanLog profile job content).1.lines : Int)
      | .error _ => 0) ∧
    ((Outcome.plain read profile job).headers =
      match read job.path with
      | .ok content => ((scanLog profile job content).1.headers : Int)
      | .error _ => 0) := by
  unfold Outcome.plain
  cases read job.path with
  | ok content => exact ⟨rfl, rfl, rfl, rfl⟩
  | error e => cases he : e.isMissing <;> simp [Outcome.absent, Outcome.unreadable, he]

theorem plain_uncached (job : Job) :
    (Outcome.plain read profile job).cached = false ∧ (Outcome.plain read profile job).cacheFault = none := by
  unfold Outcome.plain
  cases read job.path with
  | ok content => exact ⟨rfl, rfl⟩
  | error e => cases he : e.isMissing <;> simp [he, Outcome.absent, Outcome.unreadable]

/-- The outcomes of all logs, merged. -/
theorem reading_ofOutcomes (listing : Listing) :
    Reading read profile listing (RunResult.ofOutcomes listing (listing.jobs.map (Outcome.plain read profile))) where
  missing := by
    have hmissing : (fun job => (Outcome.plain read profile job).missing) = isAbsent read ∘ Job.path :=
      funext (missing_plain read profile)
    simp only [RunResult.ofOutcomes]
    rw [List.filter_map, ← hmissing]
    induction listing.jobs with
    | nil => rfl
    | cons job jobs ih => cases hm : (Outcome.plain read profile job).missing <;> simp [hm, ih]
  records := (flatMap_present_plain read profile rfl listing.jobs).trans
    (List.flatMap_congr fun job _ => (plain_fields read profile job).1)
  failures := (flatMap_present_plain read profile rfl listing.jobs).trans
    (List.flatMap_congr fun job _ => (plain_fields read profile job).2.1)
  lines := (sum64_present_plain read profile rfl listing.jobs).trans
    (congrArg Text.sum64 (List.map_congr_left fun job _ => (plain_fields read profile job).2.2.1))
  headers := (sum64_present_plain read profile rfl listing.jobs).trans
    (congrArg Text.sum64 (List.map_congr_left fun job _ => (plain_fields read profile job).2.2.2))
  scanned := by
    rw [← length_jobs]
    simp only [RunResult.ofOutcomes, List.length_map]
    induction listing.jobs with
    | nil => rfl
    | cons job jobs ih =>
      cases hm : (Outcome.plain read profile job).missing
      · simp [hm, ← ih]; omega
      · simp [hm, ← ih]; omega
  packages := rfl
  cached := by
    simp [RunResult.ofOutcomes, plain_uncached read profile]
  cacheFaults := by
    simp [RunResult.ofOutcomes, plain_uncached read profile]

end Plain

/-! ## all logs -/

/-- Reading a file changes nothing. -/
theorem keeps_readFile {known kept : World → Prop} {result : Except Disk.Error Text → Prop} {path : Text}
    (h : ∀ w, known w → kept w → result (w.machine.tree.readFile path)) :
    (Disk.Host.readFile path : Program World _).Keeps known kept result :=
  Program.keeps_act fun w hk hw => ⟨hw, h w hk hw⟩

section Visits

variable (profile : Profile) (world : World)

/-- A worker without a cache leaves the world alone and answers by what it reads. -/
theorem visit_keeps (job : Job) :
    (visit profile none job : Program World Outcome).Keeps (fun _ => True) (· = world)
      (· = Outcome.plain world.machine.tree.readFile profile job) := by
  refine Program.keeps_bind (keeps_readFile fun w _ hw => ?_)
  subst hw
  unfold Outcome.plain
  cases w.machine.tree.readFile job.path with
  | error e => rfl
  | ok content => rfl

theorem visit_endsWithin (job : Job) : (visit profile none job : Program World Outcome).EndsWithin 1 := by
  refine Program.endsWithin_bind (Program.endsWithin_act _) (k := 0) fun answer => ?_
  cases answer <;> trivial

/-- A visit of the serial run. -/
theorem visit_eq (machine : Machine) (recent : Cache.Recent Cache.Entry) (job : Job) :
    ((visit profile none job : StateT (Cache.Recent Cache.Entry) (StateM Machine) _).run recent).run machine =
      ((Outcome.plain machine.tree.readFile profile job, recent), machine) := by
  have hread : ((Disk.Host.readFile job.path : StateT (Cache.Recent Cache.Entry) (StateM Machine) _).run recent).run
    machine = ((machine.tree.readFile job.path, recent), machine) := rfl
  unfold visit Outcome.plain
  simp only [StateT.run_bind, hread]
  cases machine.tree.readFile job.path with
  | error e => rfl
  | ok content => rfl

/-- The serial run reads the logs in listing order. -/
theorem visitAll_eq (machine : Machine) (recent : Cache.Recent Cache.Entry) (jobs : List Job) :
    ((visitAll profile none jobs : StateT (Cache.Recent Cache.Entry) (StateM Machine) _).run recent).run machine =
      ((jobs.map (Outcome.plain machine.tree.readFile profile), recent), machine) := by
  induction jobs with
  | nil => rfl
  | cons job jobs ih =>
    simp only [visitAll, StateT.run_bind, visit_eq]
    simp only [bind, Id, ih]
    rfl

theorem perform_eq (machine : Machine) (listing : Listing) :
    ((perform profile none listing : StateM Machine _).run machine).1.1 =
      RunResult.ofOutcomes listing (listing.jobs.map (Outcome.plain machine.tree.readFile profile)) := by
  simp only [perform, StateT.run_bind, Option.map_none, visitAll_eq]
  rfl

end Visits

theorem limit_pos (profile : Profile) (directory : Option Text) (listing : Listing) (wanted : Int) (processors : Nat) :
    0 < (plan profile directory listing wanted processors).limit :=
  Nat.lt_of_lt_of_le Nat.one_pos (Nat.le_max_left 1 _)

section Uncached

variable {profile : Profile} {listing : Listing} {wanted : Int} {processors : Nat} {world : World} {choices : List Nat}
  {s : Pool World} (h : (Pool.start (plan profile none listing wanted processors) world).follow
    (plan profile none listing wanted processors) choices = some s)
include h

/-- The workers of a run without a cache leave the machine as it is, and each has the reading of its log. -/
theorem sound_of_uncached :
    Pool.Sound (plan profile none listing wanted processors) (fun _ => True) (· = world)
      (fun job o => o = Outcome.plain world.machine.tree.readFile profile job) s :=
  Pool.sound_follow (fun job _ => visit_keeps profile world job) rfl h Pool.throughout_true

theorem slots_of_uncached (hfinished : s.isFinished = true) :
    s.slots = listing.jobs.map (Outcome.plain world.machine.tree.readFile profile) := by
  have heq : List.Forall₂ Eq (listing.jobs.map (Outcome.plain world.machine.tree.readFile profile)) s.slots :=
    List.forall₂_map_left_iff.2 (((sound_of_uncached h).forall₂_slots hfinished).imp fun _ _ h => h.symm)
  rw [List.forall₂_eq_eq_eq] at heq
  exact heq.symm

/-- A run without a cache comes to an end. -/
theorem ends_of_uncached :
    choices.length ≤ 5 * listing.logCount ∧
      (s.isFinished = false → ∃ i, (s.advance (plan profile none listing wanted processors) i).isSome = true) := by
  rw [← length_jobs]
  exact ⟨Pool.length_choices_le (fun job _ => visit_endsWithin profile job) h,
    Pool.exists_advance (limit_pos ..) (sound_of_uncached h).workers⟩

end Uncached

end Run

end CastAudit
