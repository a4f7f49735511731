import CastAudit.Proofs.Cache.Transparency
import CastAudit.Proofs.Listing.Discovery
import CastAudit.Proofs.Run.Findings

/-!
# Retrying a discovered corpus

A failure list has paths alone, and the packages are told from them. For the logs of a root that is enough: those that
failed are scanned again for their own packages, in the order of the run.

* `Own content pathOf job o` — what an outcome has of one sort is of its own log;
* `Attributed listing outcomes` — failures that were taken from a cache are of the log that they were taken for, and
  `Honest listing outcomes` — there are none, and the records are of that log;
* `Credible …` — a run that asked no cache, or one that had only what runs stored;
* `visit_answers` — what a visit answers, whatever the cache holds: an entry of it, or the reading of the log;
* `retryList_told` — the paths of the logs with a failure, and `filter_told` — what a result has of them;
* `ofFailures_of_attributed`, `rescan_of_honest` — the listing that is made of these paths, and what is found in it;
* `retry_recovers` — the listing of the failed logs is that of the run without the others, and scanning it again gives
  what the run gave for them; `retry_of_false_entry` — what becomes of a cache that was tampered with.
-/

namespace CastAudit

/-- The log at a path has a failure in the result. -/
def RunResult.failed (r : RunResult) (path : Text) : Bool := r.failures.any fun f => f.logPath == path

namespace Run

open Disk (Machine)

/-! ## one log -/

/-- What the outcome has of one sort is of its own log, and nothing is there without the log. -/
structure Own {β : Type} (content : Outcome → List β) (pathOf : β → Text) (job : Job) (o : Outcome) : Prop where
  absent : o.missing = true → content o = []
  path : ∀ b ∈ content o, pathOf b = job.path

/-- Every failure that was taken from a cache is one of the log that it was taken for. -/
def Attributed (listing : Listing) (outcomes : List Outcome) : Prop :=
  ∀ p ∈ listing.jobs.zip outcomes, p.2.cached = true → ∀ f ∈ p.2.failures, f.logPath = p.1.path

/-- Every log that was answered from a cache was so without a failure, and with records of its own. -/
def Honest (listing : Listing) (outcomes : List Outcome) : Prop :=
  ∀ p ∈ listing.jobs.zip outcomes, p.2.cached = true → p.2.failures = [] ∧ ∀ r ∈ p.2.records, r.logPath = p.1.path

theorem Honest.attributed {listing : Listing} {outcomes : List Outcome} (h : Honest listing outcomes) :
    Attributed listing outcomes := by
  intro p hp hcached f hf
  rw [(h p hp hcached).1] at hf
  cases hf

theorem records_plain (read : Text → Except Disk.Error Text) (profile : Profile) (job : Job) :
    (Outcome.plain read profile job).records = recordsIn read profile job := (plain_fields read profile job).1

theorem failures_plain (read : Text → Except Disk.Error Text) (profile : Profile) (job : Job) :
    (Outcome.plain read profile job).failures = failuresIn read profile job := (plain_fields read profile job).2.1

theorem own_records_plain (read : Text → Except Disk.Error Text) (profile : Profile) (job : Job) :
    Own Outcome.records Record.logPath job (Outcome.plain read profile job) where
  absent h := by
    rw [missing_plain] at h
    rw [plain_of_absent read profile h]
    rfl
  path r hr := by
    rw [records_plain] at hr
    obtain ⟨content, -, hr⟩ := exists_of_mem_recordsIn hr
    exact (Scan.texts_of_mem_records hr).2.1

theorem own_failures_plain (read : Text → Except Disk.Error Text) (profile : Profile) (job : Job) :
    Own Outcome.failures Failure.logPath job (Outcome.plain read profile job) where
  absent h := by
    rw [missing_plain] at h
    rw [plain_of_absent read profile h]
    rfl
  path f hf := logPath_of_mem_failuresIn (failures_plain read profile job ▸ hf)

/-- What a visit answers: an entry of the cache, or what is read in one of the worlds that it passes. -/
def Answers (known : World → Prop) (profile : Profile) (job : Job) (o : Outcome) : Prop :=
  (∃ entry, o = Outcome.ofEntry entry) ∨
    o.cached = false ∧ ∃ w, known w ∧ o.uncached = Outcome.plain w.machine.tree.readFile profile job

section Visits

variable {known : World → Prop}

theorem Program.keeps_true {W α : Type} {known : W → Prop} (p : Program W α) :
    p.Keeps known (fun _ => True) fun _ => True := by
  induction p with
  | done a => trivial
  | step next rest ih => exact fun w _ _ => ⟨trivial, ih w⟩

/-- **A visit answers from the cache or by what it reads**, whatever other workers do. -/
theorem visit_answers (profile : Profile) (directory : Option Text) (job : Job) :
    (visit profile directory job : Program World Outcome).Keeps known (fun _ => True)
      fun o => Answers known profile job o ∧ (directory = none → o.cached = false) := by
  refine Program.keeps_bind (keeps_readFile fun w hknown _ => ?_)
  cases hread : w.machine.tree.readFile job.path with
  | error e =>
    have hplain : Outcome.plain w.machine.tree.readFile profile job =
        if e.isMissing then Outcome.absent else Outcome.unreadable job e := by rw [Outcome.plain, hread]
    simp only
    rw [← hplain]
    obtain ⟨hcached, hfault⟩ := plain_uncached w.machine.tree.readFile profile job
    exact ⟨.inr ⟨hcached, w, hknown, by rw [Outcome.uncached, ← hcached, ← hfault]⟩, fun _ => hcached⟩
  | ok content =>
    have hplain : Outcome.plain w.machine.tree.readFile profile job =
        Outcome.ofScan (scanLog profile job content).1 none := by rw [Outcome.plain, hread]
    cases directory with
    | none => exact ⟨.inr ⟨rfl, w, hknown, hplain.symm⟩, fun _ => rfl⟩
    | some d =>
      have hvisit := @visitCached_cases known d ⟨profile, job, content⟩ (fun _ => True) (fun _ => True)
        ((Program.keeps_true _).imp fun _ _ _ _ => trivial) fun _ => Program.keeps_true _
      refine hvisit.imp ?_
      rintro o (⟨entry, -, rfl⟩ | ⟨fault, rfl⟩)
      · exact ⟨.inl ⟨entry, rfl⟩, by simp⟩
      · exact ⟨.inr ⟨rfl, w, hknown, hplain.symm⟩, by simp⟩

end Visits

/-- An answer has only what is of its own log, if that is so for what comes from the cache. -/
theorem Answers.own {known : World → Prop} {profile : Profile} {job : Job} {o : Outcome} (h : Answers known profile job o)
    {β : Type} {content : Outcome → List β} {pathOf : β → Text}
    (hplain : ∀ read, Own content pathOf job (Outcome.plain read profile job)) (hsame : content o.uncached = content o)
    (hcached : o.cached = true → ∀ b ∈ content o, pathOf b = job.path) : Own content pathOf job o := by
  rcases h with ⟨entry, rfl⟩ | ⟨-, w, -, hread⟩
  · exact ⟨nofun, hcached rfl⟩
  · have hown := hplain w.machine.tree.readFile
    rw [← hread] at hown
    exact ⟨fun h => hsame ▸ hown.absent h, hsame ▸ hown.path⟩

/-- An answer that tells of a failure was read from the log. -/
theorem Answers.eq_of_failing {known : World → Prop} {profile : Profile} {job : Job} {o : Outcome}
    (h : Answers known profile job o) (hhonest : o.cached = true → o.failures = []) (hfails : o.failures ≠ [])
    {read : Text → Except Disk.Error Text} (hread : ∀ w, known w → w.machine.tree.readFile job.path = read job.path) :
    o.records = recordsIn read profile job ∧ o.failures = failuresIn read profile job := by
  rcases h with ⟨entry, rfl⟩ | ⟨-, w, hw, hplain⟩
  · exact absurd (hhonest rfl) hfails
  · have hsame : o.uncached = Outcome.plain read profile job := by
      rw [hplain, Outcome.plain, hread w hw, Outcome.plain]
    exact ⟨(congrArg Outcome.records hsame).trans (records_plain ..),
      (congrArg Outcome.failures hsame).trans (failures_plain ..)⟩

/-! ## all logs -/

section Told

variable {told : List (Job × Outcome)}

/-- What a result has of one sort, log by log. -/
theorem present_told {β : Type} {content : Outcome → List β} {pathOf : β → Text}
    (hown : ∀ p ∈ told, Own content pathOf p.1 p.2) :
    ((told.map Prod.snd).filter fun o => !o.missing).flatMap content = told.flatMap fun p => content p.2 := by
  have hpresent : ∀ o ∈ told.map Prod.snd, o.missing = true → content o = [] := by
    intro o ho hmissing
    obtain ⟨p, hp, rfl⟩ := List.mem_map.1 ho
    exact (hown p hp).absent hmissing
  rw [flatMap_present hpresent, List.flatMap_map]

/-- What is told of the logs with some property stands with them, and nothing else does. -/
theorem filter_told {β : Type} {content : Outcome → List β} {pathOf : β → Text} {expected : Job → List β}
    (keep : Text → Bool) (hpath : ∀ p ∈ told, ∀ b ∈ content p.2, pathOf b = p.1.path)
    (hexpected : ∀ p ∈ told, keep p.1.path = true → content p.2 = expected p.1) :
    ((told.flatMap fun p => content p.2).filter fun b => keep (pathOf b)) =
      ((told.map Prod.fst).filter fun job => keep job.path).flatMap expected := by
  induction told with
  | nil => rfl
  | cons p told ih =>
    rw [List.forall_mem_cons] at hpath hexpected
    rw [List.flatMap_cons, List.filter_append, ih hpath.2 hexpected.2, List.map_cons, List.filter_cons]
    cases hkeep : keep p.1.path with
    | true =>
      have hall : ((content p.2).filter fun b => keep (pathOf b)) = expected p.1 := by
        rw [List.filter_eq_self.2 fun b hb => by rw [hpath.1 b hb, hkeep], hexpected.1 hkeep]
      rw [hall, if_pos rfl, List.flatMap_cons]
    | false =>
      have hnone : ((content p.2).filter fun b => keep (pathOf b)) = [] := by
        rw [List.filter_eq_nil_iff]
        intro b hb
        rw [hpath.1 b hb, hkeep]
        exact Bool.false_ne_true
      rw [hnone, if_neg Bool.false_ne_true, List.nil_append]

variable (hown : ∀ p ∈ told, Own Outcome.failures Failure.logPath p.1 p.2)
include hown

theorem failures_told (listing : Listing) :
    (RunResult.ofOutcomes listing (told.map Prod.snd)).failures = told.flatMap fun p => p.2.failures :=
  present_told hown

variable (hnodup : (told.map fun p => p.1.path).Nodup)
include hnodup

theorem failed_told (listing : Listing) {p : Job × Outcome} (hp : p ∈ told) :
    (RunResult.ofOutcomes listing (told.map Prod.snd)).failed p.1.path = !p.2.failures.isEmpty := by
  rw [Bool.eq_iff_iff, RunResult.failed, failures_told hown, List.any_eq_true]
  constructor
  · rintro ⟨f, hf, hpath⟩
    obtain ⟨q, hq, hf⟩ := List.mem_flatMap.1 hf
    obtain rfl : q = p := List.inj_on_of_nodup_map hnodup hq hp (((hown q hq).path f hf).symm.trans (eq_of_beq hpath))
    simpa using List.ne_nil_of_mem hf
  · intro hfails
    obtain ⟨f, hf⟩ := List.exists_mem_of_ne_nil p.2.failures (by simpa using hfails)
    exact ⟨f, List.mem_flatMap.2 ⟨p, hp, hf⟩, beq_iff_eq.2 ((hown p hp).path f hf)⟩

/-- **The logs to be retried** are those with a failure, in the order of the run. -/
theorem retryList_told (listing : Listing) (hfilled : ∀ p ∈ told, p.1.path ≠ []) :
    retryList (RunResult.ofOutcomes listing (told.map Prod.snd)).failures =
      (told.map fun p => p.1.path).filter (RunResult.ofOutcomes listing (told.map Prod.snd)).failed := by
  have hpaths : ∀ p ∈ told, ∀ path ∈ p.2.failures.map Failure.logPath, path = p.1.path := by
    intro p hp path hpath
    obtain ⟨f, hf, rfl⟩ := List.mem_map.1 hpath
    exact (hown p hp).path f hf
  have hkeep : (((told.flatMap fun p => p.2.failures).map Failure.logPath).filter fun p => !p.isEmpty) =
      (told.flatMap fun p => p.2.failures).map Failure.logPath := by
    rw [List.filter_eq_self]
    intro path hpath
    rw [List.map_flatMap] at hpath
    obtain ⟨p, hp, hpath⟩ := List.mem_flatMap.1 hpath
    simpa [hpaths p hp path hpath] using hfilled p hp
  rw [retryList, failures_told hown, hkeep, List.map_flatMap,
    eraseDups_flatMap (fun p : Job × Outcome => p.2.failures.map Failure.logPath) (fun p => p.1.path) _ hpaths,
    eraseDups_of_nodup (hnodup.sublist (List.filter_sublist.map _)), List.filter_map]
  congr 1
  refine List.filter_congr fun p hp => ?_
  rw [Function.comp_apply, failed_told hown hnodup listing hp, List.isEmpty_map]

end Told

section Paths

variable {paths : List Text} (hpackages : (paths.map Listing.packageOfLog).Nodup)
  (hpaths : ∀ p ∈ paths, Text.trim p = p ∧ p ≠ []) {told : List (Job × Outcome)}
  (hjobs : told.map Prod.fst = paths.map Listing.jobAt)
  (hown : ∀ p ∈ told, Own Outcome.failures Failure.logPath p.1 p.2)

include hjobs in
theorem paths_told : (told.map fun p => p.1.path) = paths := by
  have hmapped := congrArg (List.map Job.path) hjobs
  rw [List.map_map, List.map_map] at hmapped
  exact hmapped.trans (List.map_id paths)

include hpackages hpaths hjobs hown

/-- **The listing of the failed logs**, each for its own package. -/
theorem ofFailures_told (listing : Listing) :
    Listing.ofFailures (retryList (RunResult.ofOutcomes listing (told.map Prod.snd)).failures) =
      (paths.filter (RunResult.ofOutcomes listing (told.map Prod.snd)).failed).map Listing.entryAt := by
  have htold := paths_told hjobs
  have hnodup : (told.map fun p => p.1.path).Nodup := htold ▸ List.Nodup.of_map _ hpackages
  have hfilled : ∀ p ∈ told, p.1.path ≠ [] := fun p hp => (hpaths _ (htold ▸ List.mem_map.2 ⟨p, hp, rfl⟩)).2
  rw [retryList_told hown hnodup listing hfilled, htold]
  exact Listing.ofFailures_of_distinct (hpackages.sublist (List.filter_sublist.map _))
    fun p hp => hpaths p (List.mem_of_mem_filter hp)

/-- **Scanning the failed logs again** gives what was told of them, if it was read from logs that read so still. -/
theorem rescan_told (listing : Listing) {read : Text → Except Disk.Error Text} {profile : Profile}
    (hrecords : ∀ p ∈ told, Own Outcome.records Record.logPath p.1 p.2) (hread : ∀ p ∈ told, p.2.failures ≠ [] →
      p.2.records = recordsIn read profile p.1 ∧ p.2.failures = failuresIn read profile p.1) {retried : RunResult}
    (hretried : Reading read profile
      (Listing.ofFailures (retryList (RunResult.ofOutcomes listing (told.map Prod.snd)).failures)) retried) :
    let result := RunResult.ofOutcomes listing (told.map Prod.snd)
    retried.records = result.records.filter (fun r => result.failed r.logPath) ∧
      retried.failures = result.failures.filter (fun f => result.failed f.logPath) := by
  intro result
  have hnodup : (told.map fun p => p.1.path).Nodup := paths_told hjobs ▸ List.Nodup.of_map _ hpackages
  -- logs have distinct paths, so a failure that is told is one of the log it names
  have hfails : ∀ p ∈ told, result.failed p.1.path = true → p.2.failures ≠ [] := by
    intro p hp hfailed
    rw [failed_told hown hnodup listing hp] at hfailed
    simpa using hfailed
  have hagain : Listing.jobs (Listing.ofFailures (retryList result.failures)) =
      (told.map Prod.fst).filter fun job => result.failed job.path := by
    rw [ofFailures_told hpackages hpaths hjobs hown, Listing.jobs_entriesAt, hjobs, List.filter_map]
    rfl
  have hfound : retried.records = (Listing.jobs (Listing.ofFailures (retryList result.failures))).flatMap
    (recordsIn read profile) := hretried.records
  have hfailing : retried.failures = (Listing.jobs (Listing.ofFailures (retryList result.failures))).flatMap
    (failuresIn read profile) := hretried.failures
  have hresult : result.records = told.flatMap fun p => p.2.records := present_told hrecords
  rw [hfound, hfailing, hagain, hresult, failures_told hown]
  exact ⟨(filter_told result.failed (fun p hp => (hrecords p hp).path)
      fun p hp hfailed => (hread p hp (hfails p hp hfailed)).1).symm,
    (filter_told result.failed (fun p hp => (hown p hp).path)
      fun p hp hfailed => (hread p hp (hfails p hp hfailed)).2).symm⟩

end Paths

/-! ## a run and its retry -/

section Runs

variable {profile : Profile} {directory : Option Text} {listing : Listing} {wanted : Int} {processors : Nat}
  {world : World} {choices : List Nat} {s : Pool World}
  (hrun : (Pool.start (plan profile directory listing wanted processors) world).follow
    (plan profile directory listing wanted processors) choices = some s) (hfinished : s.isFinished = true)
include hrun hfinished

/-- Each log of a run has an answer. -/
theorem answers_of_follow {known : World → Prop}
    (hknown : Pool.Throughout (plan profile directory listing wanted processors) known
      (Pool.start (plan profile directory listing wanted processors) world) choices) :
    s.slots.length = listing.jobs.length ∧ ∀ p ∈ listing.jobs.zip s.slots,
      Answers known profile p.1 p.2 ∧ (directory = none → p.2.cached = false) := by
  have hsound : Pool.Sound (plan profile directory listing wanted processors) known (fun _ => True)
      (fun job o => Answers known profile job o ∧ (directory = none → o.cached = false)) s :=
    Pool.sound_follow (fun job _ => visit_answers profile directory job) trivial hrun hknown
  exact ⟨hsound.slots, fun p hp => List.forall₂_zip (hsound.forall₂_slots hfinished) hp⟩

theorem honest_of_uncached (hnone : directory = none) : Honest listing s.slots := by
  intro p hp hcached
  have hfalse := ((answers_of_follow hrun hfinished Pool.throughout_true).2 p hp).2 hnone
  rw [hfalse] at hcached
  cases hcached

theorem own_failures_of_follow (hattributed : Attributed listing s.slots) :
    ∀ p ∈ listing.jobs.zip s.slots, Own Outcome.failures Failure.logPath p.1 p.2 := fun p hp =>
  ((answers_of_follow hrun hfinished Pool.throughout_true).2 p hp).1.own (fun read => own_failures_plain read profile p.1)
    rfl (hattributed p hp)

theorem own_records_of_follow (hhonest : Honest listing s.slots) :
    ∀ p ∈ listing.jobs.zip s.slots, Own Outcome.records Record.logPath p.1 p.2 := fun p hp =>
  ((answers_of_follow hrun hfinished Pool.throughout_true).2 p hp).1.own (fun read => own_records_plain read profile p.1)
    rfl fun hcached => (hhonest p hp hcached).2

/-- In an honest run over logs at rest what is told of a log that fails is what it reads later. -/
theorem read_of_follow (hhonest : Honest listing s.slots)
    (hrest : Pool.Throughout (plan profile directory listing wanted processors) (Resting listing world)
      (Pool.start (plan profile directory listing wanted processors) world) choices)
    {later : World} (hlater : Resting listing world later) :
    ∀ p ∈ listing.jobs.zip s.slots, p.2.failures ≠ [] →
      p.2.records = recordsIn later.machine.tree.readFile profile p.1 ∧
        p.2.failures = failuresIn later.machine.tree.readFile profile p.1 := by
  intro p hp hfails
  have hjob : p.1 ∈ listing.jobs := (List.of_mem_zip hp).1
  exact ((answers_of_follow hrun hfinished hrest).2 p hp).1.eq_of_failing (fun hcached => (hhonest p hp hcached).1)
    hfails fun w hw => (hw p.1 hjob).trans (hlater p.1 hjob).symm

end Runs

/-- **What a cache has from runs is honest.** -/
theorem honest_of_course {directory : Text} {visits : Visit → Prop} (hf : Faithful visits) {world : World}
    (hreached : Reached directory visits world) {profile : Profile} {listing : Listing} {wanted : Int}
    {processors : Nat} {choices : List Nat} {s : Pool World}
    (h : Course directory visits profile listing wanted processors world choices s) (hfinished : s.isFinished = true) :
    Honest listing s.slots := by
  intro p hp hcached
  have hslots := (h.sound hf (kept_of_reached hf hreached)).forall₂_slots hfinished
  obtain ⟨hplain, hclean⟩ := List.forall₂_zip hslots hp
  obtain ⟨content, hread, hclean⟩ := hclean hcached
  have hown := own_records_plain world.machine.tree.readFile profile p.1
  rw [← hplain] at hown
  refine ⟨?_, hown.path⟩
  have hfailures : p.2.failures = failuresIn world.machine.tree.readFile profile p.1 := by
    rw [← failures_plain, ← hplain]
    rfl
  rw [hfailures, failuresIn, hread]
  simpa using (Bool.and_eq_true_iff.1 hclean).2

section Retries

variable {paths : List Text} (hpackages : (paths.map Listing.packageOfLog).Nodup)
  (hpaths : ∀ p ∈ paths, Text.trim p = p ∧ p ≠ []) {profile : Profile} {directory : Option Text} {wanted : Int}
  {processors : Nat} {world : World} {choices : List Nat} {s : Pool World}
  (hrun : (Pool.start (plan profile directory (paths.map Listing.entryAt) wanted processors) world).follow
    (plan profile directory (paths.map Listing.entryAt) wanted processors) choices = some s)
  (hfinished : s.isFinished = true)

include hrun hfinished in
/-- The logs of a run with their outcomes. -/
theorem told_of_follow :
    ∃ told : List (Job × Outcome), told = (Listing.jobs (paths.map Listing.entryAt)).zip s.slots ∧
      told.map Prod.fst = paths.map Listing.jobAt ∧ told.map Prod.snd = s.slots := by
  have hlength := (answers_of_follow hrun hfinished Pool.throughout_true).1
  refine ⟨_, rfl, ?_, List.map_snd_zip hlength.le⟩
  rw [List.map_fst_zip hlength.ge, Listing.jobs_entriesAt]

include hpackages hpaths hrun hfinished

/-- **The listing of the failure list** is that of the run without the logs that have no failure. -/
theorem ofFailures_of_attributed (hattributed : Attributed (paths.map Listing.entryAt) s.slots) :
    let result := RunResult.ofOutcomes (paths.map Listing.entryAt) s.slots
    Listing.ofFailures (retryList result.failures) =
      (paths.map Listing.entryAt).filter fun e => e.logPaths.any result.failed := by
  obtain ⟨told, rfl, hjobs, hslots⟩ := told_of_follow hrun hfinished
  have hown := own_failures_of_follow hrun hfinished hattributed
  have hagain := ofFailures_told hpackages hpaths hjobs hown (paths.map Listing.entryAt)
  rw [hslots] at hagain
  intro result
  rw [hagain, List.filter_map]
  congr 2
  funext p
  simp [result, Listing.entryAt]

/-- **Scanning it again** gives what the run gave for the logs with a failure, if the logs rest. -/
theorem rescan_of_honest (hhonest : Honest (paths.map Listing.entryAt) s.slots)
    (hrest : Pool.Throughout (plan profile directory (paths.map Listing.entryAt) wanted processors)
      (Resting (paths.map Listing.entryAt) world)
      (Pool.start (plan profile directory (paths.map Listing.entryAt) wanted processors) world) choices)
    {later : World} (hlater : Resting (paths.map Listing.entryAt) world later) :
    let result := RunResult.ofOutcomes (paths.map Listing.entryAt) s.slots
    let again := Listing.ofFailures (retryList result.failures)
    let retried := ((perform profile none again : StateM Machine _).run later.machine).1.1
    retried.records = result.records.filter (fun r => result.failed r.logPath) ∧
      retried.failures = result.failures.filter (fun f => result.failed f.logPath) := by
  obtain ⟨told, rfl, hjobs, hslots⟩ := told_of_follow hrun hfinished
  have hown := own_failures_of_follow hrun hfinished hhonest.attributed
  have hrecords := own_records_of_follow hrun hfinished hhonest
  have hread := read_of_follow hrun hfinished hhonest hrest hlater
  rw [← hslots]
  intro result again
  rw [perform_eq]
  exact rescan_told hpackages hpaths hjobs hown _ hrecords hread (reading_ofOutcomes _ profile again)

end Retries

/-- The run asked no cache, or one that had only what runs stored. -/
def Credible (profile : Profile) (directory : Option Text) (listing : Listing) (wanted : Int) (processors : Nat)
    (world : World) (choices : List Nat) (s : Pool World) : Prop :=
  directory = none ∨ ∃ d visits, directory = some d ∧ Faithful visits ∧ Reached d visits world ∧
    Course d visits profile listing wanted processors world choices s

/-- **A retry recovers the failed logs of a root.** After a run over the listing of a root, under some order of the
workers' steps, the listing of the failure list is that of the root without the logs that have no failure. If the logs
rest, scanning it again gives what the run gave for them, again under every order. The run may have asked any cache, as
long as what was taken from it was attributed to its own logs, or honest. -/
theorem retry_recovers {machine : Machine} {root logName : Text} {listing : Listing}
    (hdistinct : (machine.tree.nodes.map Prod.fst).Nodup) (hlog : Path.IsName logName)
    (hlisting : ((Listing.discover root logName : StateM Machine _).run machine).1 = .ok listing)
    (htrim : ∀ job ∈ listing.jobs, Text.trim job.path = job.path) {profile : Profile} {directory : Option Text}
    {wanted : Int} {processors : Nat} {world : World} {choices : List Nat} {s : Pool World}
    (hrun : (Pool.start (plan profile directory listing wanted processors) world).follow
      (plan profile directory listing wanted processors) choices = some s) (hfinished : s.isFinished = true) :
    let result := RunResult.ofOutcomes listing s.slots
    let again := Listing.ofFailures (retryList result.failures)
    (Credible profile directory listing wanted processors world choices s ∨ Attributed listing s.slots →
      again = listing.filter (fun e => e.logPaths.any result.failed)) ∧
    (Credible profile directory listing wanted processors world choices s ∨ Honest listing s.slots → ∀ later : World,
      Pool.Throughout (plan profile directory listing wanted processors) (Resting listing world)
        (Pool.start (plan profile directory listing wanted processors) world) choices →
      Resting listing world later →
      let retried := ((perform profile none again : StateM Machine _).run later.machine).1.1
      retried.records = result.records.filter (fun r => result.failed r.logPath) ∧
      retried.failures = result.failures.filter (fun f => result.failed f.logPath) ∧
      ∀ (wanted' : Int) (processors' : Nat) (choices' : List Nat) (s' : Pool World),
        (Pool.start (plan profile none again wanted' processors') later).follow
          (plan profile none again wanted' processors') choices' = some s' →
        choices'.length ≤ 5 * again.logCount ∧
        (s'.isFinished = false → ∃ i, (s'.advance (plan profile none again wanted' processors') i).isSome = true) ∧
        (s'.isFinished = true → RunResult.ofOutcomes again s'.slots = retried)) := by
  intro result again
  have hcredible (h : Credible profile directory listing wanted processors world choices s) :
      Honest listing s.slots := by
    rcases h with hnone | ⟨d, visits, -, hf, hreached, hcourse⟩
    · exact honest_of_uncached hrun hfinished hnone
    · exact honest_of_course hf hreached hcourse hfinished
  obtain ⟨paths, rfl, hpackages, hfilled⟩ := Listing.exists_entriesAt hdistinct hlog hlisting
  have hpaths : ∀ p ∈ paths, Text.trim p = p ∧ p ≠ [] := by
    intro p hp
    have hjob : Listing.jobAt p ∈ Listing.jobs (paths.map Listing.entryAt) :=
      Listing.jobs_entriesAt paths ▸ List.mem_map.2 ⟨p, hp, rfl⟩
    exact ⟨htrim _ hjob, hfilled p hp⟩
  refine ⟨fun hcache => ?_, fun hcache later hrest hlater => ?_⟩
  · have hattributed := hcache.elim (fun h => (hcredible h).attributed) id
    exact ofFailures_of_attributed hpackages hpaths hrun hfinished hattributed
  · have hhonest := hcache.elim hcredible id
    obtain ⟨hrecords, hfailures⟩ := rescan_of_honest hpackages hpaths hrun hfinished hhonest hrest hlater
    refine ⟨hrecords, hfailures, fun wanted' processors' choices' s' hsteps => ?_⟩
    obtain ⟨hbound, hprogress⟩ := ends_of_uncached hsteps
    exact ⟨hbound, hprogress, fun hfinished' => by rw [slots_of_uncached hsteps hfinished', perform_eq]⟩

/-- Three packages below a root that is reached from above: one with a finding, one that also has a header which cannot
be read as one, and one with a log that must not be read. Two workers scan them; the last two are tried again. -/
theorem retry_recovers_partly :
    let found : List Text := ["warning: Here is cast(fn f>A>B=>mut>L)", "  --> src/a.rs:1:1"]
    let broken : Text := "warning: Here is cast(broken)"
    let machine : Machine := { tree :=
      { nodes := [(["c"], .directory), (["a-1.0", "c"], .directory), (["l", "a-1.0", "c"], .file 0),
          (["b", "c"], .directory), (["l", "b", "c"], .file 1), (["d", "c"], .directory), (["l", "d", "c"], .file 2)],
        contents := #[Text.unlines found, Text.unlines (found ++ [broken]), []],
        unreadable := [(2, .denied)] } }
    let listing : Listing := [⟨"a-1.0", ["../c/a-1.0/l"]⟩, ⟨"b", ["../c/b/l"]⟩, ⟨"d", ["../c/d/l"]⟩]
    let profile : Profile := ⟨"cast", [.cast], "l"⟩
    let run := plan profile none listing 2 8
    ((Listing.discover ".././c//" "l" : StateM Machine _).run machine).1 = .ok listing ∧
    ∃ s, (Pool.start run { machine }).follow run [0, 1, 1, 0, 1, 1, 0, 1, 2, 2, 0, 0, 2, 2, 2] = some s ∧
      s.isFinished = true ∧
      let result := RunResult.ofOutcomes listing s.slots
      let again := Listing.ofFailures (retryList result.failures)
      let retried := ((perform profile none again : StateM Machine _).run machine).1.1
      result.records.length = 2 ∧ result.failures.length = 2 ∧
      again = listing.filter (fun e => e.logPaths.any result.failed) ∧
      again = [⟨"b", ["../c/b/l"]⟩, ⟨"d", ["../c/d/l"]⟩] ∧
      retried.records = result.records.filter (fun r => result.failed r.logPath) ∧
      retried.failures = result.failures.filter (fun f => result.failed f.logPath) := by
  intro found broken machine listing profile run
  have hlisting : ((Listing.discover ".././c//" "l" : StateM Machine _).run machine).1 = .ok listing := by
    rw [@Listing.discover_of_sorted machine _ ["c"] (by decide +kernel) (by decide +kernel) (by decide +kernel)]
    exact eq_ok_of_toOption (by decide +kernel)
  have htold : ((Pool.start run { machine }).follow run [0, 1, 1, 0, 1, 1, 0, 1, 2, 2, 0, 0, 2, 2, 2]).map
      (fun s =>
        let result := RunResult.ofOutcomes listing s.slots
        (s.isFinished, result.records.length, result.failures.length,
          Listing.ofFailures (retryList result.failures))) =
      some (true, 2, 2, [⟨"b", ["../c/b/l"]⟩, ⟨"d", ["../c/d/l"]⟩]) := by decide +kernel
  have hrest : Pool.Throughout run (Resting listing { machine }) (Pool.start run { machine })
      [0, 1, 1, 0, 1, 1, 0, 1, 2, 2, 0, 0, 2, 2, 2] := by decide +kernel
  obtain ⟨s, hs, htold⟩ := Option.map_eq_some_iff.1 htold
  obtain ⟨hfinished, hrecords, hfailures, hagain⟩ : s.isFinished = true ∧ _ ∧ _ ∧ _ := by
    simpa only [Prod.mk.injEq] using htold
  obtain ⟨hfilter, hretry⟩ := retry_recovers (by decide +kernel) ⟨by decide, by decide, by decide, by decide⟩ hlisting
    (by decide +kernel) hs hfinished
  obtain ⟨hretried, hfails, -⟩ := hretry (.inl (.inl rfl)) { machine } hrest (fun _ _ => rfl)
  exact ⟨hlisting, s, hs, hfinished, hrecords, hfailures, hfilter (.inl (.inl rfl)), hagain, hretried, hfails⟩

/-- **A cache is believed.** Its entry for a log with nothing in it tells of a failure of that log and of one of another.
The retry asks no cache: it finds neither, and scans a log that was not in the run. -/
theorem retry_of_false_entry :
    let machine : Machine := { tree :=
      { nodes := [(["c"], .directory), (["p", "c"], .directory), (["l", "p", "c"], .file 0)], contents := #["x\n"] } }
    let listing : Listing := [⟨"p", ["c/p/l"]⟩]
    let profile : Profile := ⟨"lint", [.cast, .transmute], "l"⟩
    let told : List Failure := [⟨"p", "c/p/l", 1, "none"⟩, ⟨"y", "x/y/l", 1, "none"⟩]
    let entry : Cache.Entry := { schema := Cache.schemaVersion, failures := some told, lines := 1 }
    let world : World :=
      { machine, recent := { capacity := 8, items := [(Cache.key "lint" "p" "c/p/l" "x\n", entry)] } }
    let run := plan profile (some []) listing 1 8
    ((Listing.discover "c" "l" : StateM Machine _).run machine).1 = .ok listing ∧
    ∃ s, (Pool.start run world).follow run [0, 0, 0, 0, 0, 0] = some s ∧ s.isFinished = true ∧
      Pool.Throughout run (Resting listing world) (Pool.start run world) [0, 0, 0, 0, 0, 0] ∧
      let result := RunResult.ofOutcomes listing s.slots
      let again := Listing.ofFailures (retryList result.failures)
      again ≠ listing.filter (fun e => e.logPaths.any result.failed) ∧
      ((perform profile none again : StateM Machine _).run machine).1.1.failures ≠
        result.failures.filter (fun f => result.failed f.logPath) := by
  intro machine listing profile told entry world run
  have hlisting : ((Listing.discover "c" "l" : StateM Machine _).run machine).1 = .ok listing := by
    rw [@Listing.discover_of_sorted machine _ ["c"] (by decide +kernel) (by decide +kernel) (by decide +kernel)]
    exact eq_ok_of_toOption (by decide +kernel)
  have hrun : ((Pool.start run world).follow run [0, 0, 0, 0, 0, 0]).map
      (fun s => (s.isFinished, (RunResult.ofOutcomes listing s.slots).failures)) = some (true, told) := by decide +kernel
  obtain ⟨s, hs, htold⟩ := Option.map_eq_some_iff.1 hrun
  obtain ⟨hfinished, hfailures⟩ := Prod.mk.inj htold
  refine ⟨hlisting, s, hs, hfinished, by decide +kernel, ?_⟩
  have hfailed : (RunResult.ofOutcomes listing s.slots).failed = fun path => told.any fun f => f.logPath == path :=
    funext fun path => by rw [RunResult.failed, hfailures]
  simp only [hfailed, hfailures]
  decide +kernel

end Run

end CastAudit
