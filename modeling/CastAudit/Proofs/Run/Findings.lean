import CastAudit.Proofs.Run.Order
import CastAudit.Proofs.Scan.Packages
import CastAudit.Proofs.Store.Failures

/-!
# What is to be found in a listing

The records and the failing logs of a listing, told from what its logs read as.

* `foundIn read profile listing` — the records of all logs, in listing order;
* `failingIn read profile listing` — the paths of the logs with a failure, each once;
* `Reading.records_eq`, `Reading.retryList_eq` — the result of a run has these, and `Reading.distinctFilled_eq` — they
  are what is written;
* `storable_of_mem_recordsIn` — the records can be stored, and `nodup_positions_foundIn` — no two of them were found at
  the same place.
-/

namespace CastAudit.Run

variable (read : Text → Except Disk.Error Text) (profile : Profile)

/-- The records of a log; a log that cannot be read has none. -/
def recordsIn (job : Job) : List Record :=
  match read job.path with
  | .ok content => (scanLog profile job content).1.records
  | .error _ => []

/-- The failures of a log; one that is there and cannot be read has a single failure at line 0. -/
def failuresIn (job : Job) : List Failure :=
  match read job.path with
  | .ok content => (scanLog profile job content).1.failures
  | .error e => if e.isMissing then [] else [⟨job.packageId, job.path, 0, "failed to read log: " ++ e.message⟩]

/-- The log has a failure: some header gave none of its findings, a line was too long, or it is there and cannot be
read. -/
def fails (job : Job) : Bool :=
  match read job.path with
  | .ok content => !(scanLog profile job content).1.failures.isEmpty
  | .error e => !e.isMissing

/-- The records of all logs, in listing order. -/
def foundIn (listing : Listing) : List Record := listing.jobs.flatMap (recordsIn read profile)

/-- The paths of the logs with a failure, each once, in listing order. -/
def failingIn (listing : Listing) : List Text := ((listing.jobs.filter (fails read profile)).map Job.path).eraseDups

section Reading

variable {read profile} {listing : Listing} {result : RunResult}

theorem Reading.records_eq (h : Reading read profile listing result) : result.records = foundIn read profile listing :=
  h.records

theorem isEmpty_failuresIn (job : Job) : (failuresIn read profile job).isEmpty = !fails read profile job := by
  unfold failuresIn fails
  cases read job.path with
  | ok content => simp
  | error e => cases he : e.isMissing <;> simp [he]

theorem logPath_of_mem_failuresIn {job : Job} {f : Failure} (hf : f ∈ failuresIn read profile job) :
    f.logPath = job.path := by
  unfold failuresIn at hf
  cases hread : read job.path with
  | ok content =>
    rw [hread] at hf
    exact Scan.logPath_of_mem_failures hf
  | error e =>
    rw [hread] at hf
    cases he : e.isMissing with
    | true => simp [he] at hf
    | false =>
      simp only [he] at hf
      rw [List.mem_singleton.1 hf]

/-- **A run has the failing logs to be retried**, if no path is empty. -/
theorem Reading.retryList_eq (h : Reading read profile listing result)
    (hempty : ∀ job ∈ listing.jobs, fails read profile job = true → job.path ≠ []) :
    retryList result.failures = failingIn read profile listing := by
  have hall : result.failures = listing.jobs.flatMap (failuresIn read profile) := h.failures
  have hfilled : (result.failures.map Failure.logPath).filter (fun p => !p.isEmpty) =
      result.failures.map Failure.logPath := by
    rw [List.filter_eq_self]
    intro p hp
    obtain ⟨f, hf, rfl⟩ := List.mem_map.1 hp
    rw [hall] at hf
    obtain ⟨job, hjob, hf⟩ := List.mem_flatMap.1 hf
    have hfails : fails read profile job = true := by
      have hsome := List.isEmpty_eq_false_iff_exists_mem.2 ⟨f, hf⟩
      rwa [isEmpty_failuresIn, Bool.not_eq_false'] at hsome
    simpa [logPath_of_mem_failuresIn hf] using hempty job hjob hfails
  rw [retryList, hfilled, hall, List.map_flatMap,
    eraseDups_flatMap (fun job => (failuresIn read profile job).map Failure.logPath) Job.path]
  · simp only [List.isEmpty_map, isEmpty_failuresIn, Bool.not_not]
    rfl
  · intro job _ p hp
    obtain ⟨f, hf, rfl⟩ := List.mem_map.1 hp
    exact logPath_of_mem_failuresIn hf

end Reading

/-! ## storing -/

variable {read profile} {listing : Listing}

theorem exists_of_mem_recordsIn {job : Job} {r : Record} (hr : r ∈ recordsIn read profile job) :
    ∃ content, read job.path = .ok content ∧ r ∈ (scanLog profile job content).1.records := by
  unfold recordsIn at hr
  cases hread : read job.path with
  | error e => simp [hread] at hr
  | ok content => exact ⟨content, rfl, by simpa [hread] using hr⟩

/-- **Records of a log can be stored and read back**, if it is not too large and its package and path have no line
feed. -/
theorem storable_of_mem_recordsIn {job : Job} (hpackage : Text.lf ∉ job.packageId) (hpath : Text.lf ∉ job.path)
    (hsize : ∀ content, read job.path = .ok content → (content.length : Int) ≤ Text.maxInt64) {r : Record}
    (hr : r ∈ recordsIn read profile job) : r.Storable ∧ r.lineFeeds = r := by
  obtain ⟨content, hread, hr⟩ := exists_of_mem_recordsIn hr
  exact ⟨(Scan.storable_of_mem_records (hsize content hread) hr).1, Scan.lineFeeds_of_mem_records hpackage hpath hr⟩

theorem mem_failingIn {p : Text} :
    p ∈ failingIn read profile listing ↔ ∃ job ∈ listing.jobs, fails read profile job = true ∧ job.path = p := by
  simp [failingIn, List.mem_eraseDups, and_assoc]

theorem recordsIn_inPackage (id : Text) (job : Job) :
    recordsIn read profile { job with packageId := id } = (recordsIn read profile job).map (Record.inPackage id) := by
  unfold recordsIn
  cases read job.path with
  | error e => rfl
  | ok content => exact congrArg Scan.records (Scan.ofContent_inPackage id ⟨job.packageId, job.path, profile.kinds⟩ content)

theorem fails_inPackage (id : Text) (job : Job) :
    fails read profile { job with packageId := id } = fails read profile job := by
  unfold fails
  cases read job.path with
  | error e => rfl
  | ok content =>
    have hscan := Scan.ofContent_inPackage id ⟨job.packageId, job.path, profile.kinds⟩ content
    have hfailures := congrArg Scan.failures hscan
    simp only [scanLog]
    exact (congrArg (fun fs : List Failure => !fs.isEmpty) hfailures).trans (by simp [Scan.inPackage])

/-- **No two findings are made at the same place**, if no log is listed twice. -/
theorem nodup_positions_foundIn (h : (listing.jobs.map Job.path).Nodup) :
    ((foundIn read profile listing).map Record.position).Nodup := by
  rw [foundIn, List.map_flatMap, List.nodup_flatMap]
  constructor
  · intro job _
    unfold recordsIn
    cases read job.path with
    | error e => exact List.nodup_nil
    | ok content => exact Scan.nodup_positions _ content
  · -- records of different logs have different paths
    have hpath {job : Job} {x : Text × Int} (hx : x ∈ (recordsIn read profile job).map Record.position) :
        x.1 = job.path := by
      obtain ⟨r, hr, rfl⟩ := List.mem_map.1 hx
      obtain ⟨content, -, hr⟩ := exists_of_mem_recordsIn hr
      exact (Scan.texts_of_mem_records hr).2.1
    rw [List.Nodup, List.pairwise_map] at h
    exact h.imp fun hne x hx hx' => hne ((hpath hx).symm.trans (hpath hx'))

section Congr

variable {read' : Text → Except Disk.Error Text} (h : ∀ job ∈ listing.jobs, read' job.path = read job.path)
include h

theorem foundIn_congr : foundIn read' profile listing = foundIn read profile listing :=
  List.flatMap_congr fun job hjob => by rw [recordsIn, recordsIn, h job hjob]

theorem failingIn_congr : failingIn read' profile listing = failingIn read profile listing := by
  have hsame : ∀ job ∈ listing.jobs, fails read' profile job = fails read profile job := fun job hjob => by
    rw [fails, fails, h job hjob]
  rw [failingIn, failingIn, List.filter_congr hsame]

end Congr

/-- An empty path leads to no log, so no such log fails. -/
theorem path_ne_nil_of_fails {t : Disk.Tree} {job : Job} (h : fails t.readFile profile job = true) : job.path ≠ [] := by
  obtain ⟨packageId, path⟩ := job
  rintro rfl
  cases h

theorem nodup_failingIn : (failingIn read profile listing).Nodup := nodup_eraseDups _

/-- **The failing logs are written to the list.** -/
theorem Reading.distinctFilled_eq {t : Disk.Tree} {result : RunResult} (h : Reading t.readFile profile listing result) :
    Store.distinctFilled (retryList result.failures) = failingIn t.readFile profile listing := by
  rw [h.retryList_eq fun job _ hfails => path_ne_nil_of_fails hfails]
  refine Store.distinctFilled_eq_self nodup_failingIn fun p hp => ?_
  obtain ⟨job, -, hfails, rfl⟩ := mem_failingIn.1 hp
  exact path_ne_nil_of_fails hfails

end CastAudit.Run
