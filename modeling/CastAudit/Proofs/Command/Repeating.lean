import CastAudit.Proofs.Command.Retrying
import CastAudit.Proofs.Command.Scanning

/-!
# A scan and the retries after it

A scan throws old results away, and retries of its failing logs follow, of logs that do not change. Every retry appends
all records of the logs that it scans, so the findings of a log that fails in part are stored once more each time.

* `Follows plan read logs machine after`, `Repeats profile records failures read logs m first last` — a retry after
  another command, and so many in a row;
* `Grown` — what the store and the list hold after so many retries, `Grown.retry` and `grown_of_repeats` — a retry and
  any number of them lead from one such state to another;
* `readRecords_repeats` — the records that are read from the store in the end, and when a finding stands there twice;
* `repeated_finding` — a scan and one retry after which it does.
-/

namespace CastAudit.Command

open Disk (Machine Tree)
open Listing (groupedBy packageOfLog jobAt)
open Run (Visiting foundIn failingIn recordsIn fails)

/-! ## retries in a row -/

/-- A retry that follows another command: it starts with the files that are there, finds the logs as they read before,
succeeds, and leaves a store and a list that are different files. -/
structure Follows (plan : RetryPlan) (read : Text → Except Disk.Error Text) (logs : List Text) (machine after : Machine) :
    Prop where
  succeeds : ∃ visiting before summary, before.tree = machine.tree ∧ Yields (retryBy visiting plan) before summary after
  unchanged : ∀ p ∈ logs, machine.tree.readFile p = read p
  separate : ∃ n k, plan.results.Separate after.tree n k

/-- So many retries in a row, all with one profile, one store and one list. -/
inductive Repeats (profile : Profile) (records failures : Text) (read : Text → Except Disk.Error Text)
    (logs : List Text) : Nat → Machine → Machine → Prop
  | none (machine : Machine) : Repeats profile records failures read logs 0 machine machine
  | again {m : Nat} {first machine last : Machine} {plan : RetryPlan}
      (before : Repeats profile records failures read logs m first machine) (follows : Follows plan read logs machine last)
      (hprofile : plan.profile = profile) (hrecords : plan.results.records = records)
      (hfailures : plan.results.failures = failures) : Repeats profile records failures read logs (m + 1) first last

/-! ## what they leave -/

/-- The records found by a scan, and those found again by so many retries of its failing logs. -/
def repeated (found again : List Record) (m : Nat) : List Record := found ++ (List.replicate m again).flatten

theorem repeated_succ (found again : List Record) (m : Nat) :
    repeated found again (m + 1) = repeated found again m ++ again := by
  rw [repeated, repeated, List.replicate_succ', List.flatten_concat, List.append_assoc]

theorem mem_repeated {found again : List Record} {m : Nat} {r : Record} (hr : r ∈ repeated found again m) :
    r ∈ found ∨ r ∈ again := by
  rcases List.mem_append.1 hr with hr | hr
  · exact .inl hr
  · obtain ⟨l, hl, hr⟩ := List.mem_flatten.1 hr
    rw [List.eq_of_mem_replicate hl] at hr
    exact .inr hr

section Grown

variable {profile : Profile} {records failures : Text} {read : Text → Except Disk.Error Text} {found : List Record}
  {failing : List Text} {m : Nat}

/-- What the files hold after so many retries: the rows of all records so far in the store, and in the list the failing
logs in an order that the next retry visits them in as the first did. -/
structure Grown (profile : Profile) (records failures : Text) (read : Text → Except Disk.Error Text) (found : List Record)
    (failing : List Text) (m : Nat) (t : Tree) : Prop where
  tree : t.WellFormed
  store : t.readFile records =
    .ok (Csv.writeRows ((repeated found (rescanned read profile failing) m).map Store.rowOf))
  list : ∃ order, t.readFile failures = .ok (Text.unlines order) ∧ order.Perm failing ∧
    groupedBy packageOfLog order = groupedBy packageOfLog failing

/-- Logs that read the same have the same records. -/
theorem rescanned_congr {read' : Text → Except Disk.Error Text} {order : List Text}
    (hread : ∀ p ∈ failing, read' p = read p) (horder : groupedBy packageOfLog order = groupedBy packageOfLog failing) :
    rescanned read' profile order = rescanned read profile failing := by
  rw [rescanned, rescanned, horder]
  refine List.flatMap_congr fun p hp => ?_
  rw [recordsIn, recordsIn, Listing.path_jobAt, hread p (Listing.mem_groupedBy.1 hp)]

/-- If all logs fail, the list only changes its order. -/
theorem stillFailing_of_all {read' : Text → Except Disk.Error Text} {order : List Text}
    (hread : ∀ p ∈ failing, read' p = read p) (horder : groupedBy packageOfLog order = groupedBy packageOfLog failing)
    (hfails : ∀ p ∈ failing, fails read profile (jobAt p) = true) :
    stillFailing read' profile order = groupedBy packageOfLog failing := by
  rw [stillFailing, horder, List.filter_eq_self]
  intro p hp
  have hp := Listing.mem_groupedBy.1 hp
  rw [fails, Listing.path_jobAt, hread p hp]
  exact hfails p hp

/-- **A retry stores the records of all failing logs once more** and leaves the same logs in the list. -/
theorem Grown.retry {plan : RetryPlan} {machine after : Machine} (hnodup : failing.Nodup)
    (hlisted : ∀ p ∈ failing, Store.IsListed p) (hfails : ∀ p ∈ failing, fails read plan.profile (jobAt p) = true)
    (h : Grown plan.profile plan.results.records plan.results.failures read found failing m machine.tree)
    (hretry : Follows plan read failing machine after) :
    Grown plan.profile plan.results.records plan.results.failures read found failing (m + 1) after.tree := by
  obtain ⟨order, hread, hperm, horder⟩ := h.list
  obtain ⟨visiting, before, summary, htree, hyields⟩ := hretry.succeeds
  obtain ⟨n, k, hseparate⟩ := hretry.separate
  have hpaths : Store.listedIn (Text.unlines order) = order :=
    Store.listedIn_unlines (hperm.nodup_iff.2 hnodup) fun p hp => hlisted p (hperm.mem_iff.1 hp)
  have hunchanged := hretry.unchanged
  have hstore := h.store
  have hwf := h.tree
  rw [← htree] at hread hunchanged hstore hwf
  by_cases hnone : order = []
  · -- nothing fails, so nothing is scanned and nothing is written
    have hfailing : failing = [] := by
      rw [hnone] at hperm
      exact hperm.symm.eq_nil
    have hagain : rescanned read plan.profile failing = [] := by
      rw [hfailing]
      rfl
    have hsame := retry_nothing hread (hpaths.trans hnone) hyields
    refine ⟨hsame ▸ hwf, ?_, order, hsame ▸ hread, hperm, horder⟩
    rw [hsame, hstore, repeated_succ, hagain, List.append_nil]
  · obtain ⟨hwf', -, hrecords, hlist⟩ := retry_leaves hwf hread (by rwa [hpaths]) hyields hseparate
    rw [hpaths, rescanned_congr hunchanged horder, Tree.bytesAt_of_readFile hstore, ← Csv.writeRows_append,
      ← List.map_append, ← repeated_succ] at hrecords
    rw [hpaths, stillFailing_of_all hunchanged horder hfails] at hlist
    exact ⟨hwf', hseparate.readFile_records.trans (congrArg _ hrecords), groupedBy packageOfLog failing,
      hseparate.readFile_failures.trans (congrArg _ hlist), Listing.perm_groupedBy hnodup, Listing.groupedBy_groupedBy _⟩

/-- **Any number of retries**: each stores the records of all failing logs once more. -/
theorem grown_of_repeats {first last : Machine} (hnodup : failing.Nodup) (hlisted : ∀ p ∈ failing, Store.IsListed p)
    (hfails : ∀ p ∈ failing, fails read profile (jobAt p) = true)
    (hfirst : Grown profile records failures read found failing 0 first.tree)
    (h : Repeats profile records failures read failing m first last) :
    Grown profile records failures read found failing m last.tree := by
  induction h with
  | none machine => exact hfirst
  | again before follows hprofile hrecords hfailures ih =>
    subst hprofile hrecords hfailures
    exact (ih hfirst).retry hnodup hlisted hfails follows

end Grown

/-! ## findings that stand twice -/

section Positions

variable {read : Text → Except Disk.Error Text} {profile : Profile} {listing : Listing}

/-- A failing log has the same records in a retry, but for the package. -/
theorem exists_job_of_failing {p : Text} (hp : p ∈ failingIn read profile listing) :
    ∃ job ∈ listing.jobs, fails read profile job = true ∧ fails read profile (jobAt p) = true ∧
      recordsIn read profile (jobAt p) = (recordsIn read profile job).map (Record.inPackage (packageOfLog p)) := by
  obtain ⟨job, hjob, hfails, rfl⟩ := Run.mem_failingIn.1 hp
  exact ⟨job, hjob, hfails, (Run.fails_inPackage _ job).trans hfails, Run.recordsIn_inPackage _ job⟩

/-- What is found again was found before, at the same place. -/
theorem position_mem_of_rescanned {r : Record} (hr : r ∈ rescanned read profile (failingIn read profile listing)) :
    r.position ∈ (foundIn read profile listing).map Record.position := by
  obtain ⟨p, hp, hr⟩ := List.mem_flatMap.1 hr
  obtain ⟨job, hjob, -, -, hrecords⟩ := exists_job_of_failing (Listing.mem_groupedBy.1 hp)
  rw [hrecords] at hr
  obtain ⟨r', hr', rfl⟩ := List.mem_map.1 hr
  exact List.mem_map.2 ⟨r', List.mem_flatMap.2 ⟨job, hjob, hr'⟩, rfl⟩

/-- Nothing is found again if no failing log has a record. -/
theorem rescanned_eq_nil_iff :
    rescanned read profile (failingIn read profile listing) = [] ↔
      ∀ job ∈ listing.jobs, fails read profile job = true → recordsIn read profile job = [] := by
  rw [rescanned, List.flatMap_eq_nil_iff]
  constructor
  · intro h job hjob hfails
    have hnone := h job.path (Listing.mem_groupedBy.2 (Run.mem_failingIn.2 ⟨job, hjob, hfails, rfl⟩))
    have hrecords := @Run.recordsIn_inPackage read profile (packageOfLog job.path) job
    exact List.map_eq_nil_iff.1 (hrecords.symm.trans hnone)
  · intro h p hp
    obtain ⟨job, hjob, hfails, -, hrecords⟩ := exists_job_of_failing (Listing.mem_groupedBy.1 hp)
    rw [hrecords, h job hjob hfails]
    rfl

/-- **When findings stand twice**: after a retry, if a failing log has a record. -/
theorem nodup_repeated_iff (hdistinct : (listing.jobs.map Job.path).Nodup) (m : Nat) :
    ((repeated (foundIn read profile listing) (rescanned read profile (failingIn read profile listing)) m).map
      Record.position).Nodup ↔
      m = 0 ∨ ∀ job ∈ listing.jobs, fails read profile job = true → recordsIn read profile job = [] := by
  rw [← rescanned_eq_nil_iff]
  constructor
  · intro hnodup
    by_contra hboth
    rw [not_or] at hboth
    obtain ⟨hm, hagain⟩ := hboth
    obtain ⟨r, hr⟩ := List.exists_mem_of_ne_nil _ hagain
    obtain ⟨m, rfl⟩ := Nat.exists_eq_succ_of_ne_zero hm
    rw [repeated, List.map_append, List.nodup_append] at hnodup
    refine hnodup.2.2 _ (position_mem_of_rescanned hr) r.position (List.mem_map_of_mem ?_) rfl
    exact List.mem_flatten.2 ⟨_, List.mem_replicate.2 ⟨Nat.succ_ne_zero m, rfl⟩, hr⟩
  · have hfound := @Run.nodup_positions_foundIn read profile listing hdistinct
    rintro (rfl | hnone)
    · simpa [repeated] using hfound
    · simpa [repeated, hnone] using hfound

end Positions

/-! ## from end to end -/

section EndToEnd

variable {plan : ScanPlan} {visiting : Visiting} {listing : Listing} {machine start after last : Machine}

/-- The records found again can be stored and read back. -/
theorem FreshScan.storable_rescanned (h : FreshScan plan visiting listing machine start after) :
    ∀ r ∈ rescanned start.tree.readFile plan.profile (failingIn start.tree.readFile plan.profile listing),
      r.Storable ∧ r.lineFeeds = r := by
  intro r hr
  obtain ⟨p, hp, hr⟩ := List.mem_flatMap.1 hr
  obtain ⟨job, hjob, -, rfl⟩ := Run.mem_failingIn.1 (Listing.mem_groupedBy.1 hp)
  have hpath := (h.paths job hjob).1
  exact @Run.storable_of_mem_recordsIn _ _ (jobAt job.path) (Listing.lf_not_mem_packageOfLog hpath) hpath
    (h.sizes job hjob) r hr

/-- **The store after a fresh scan and any number of retries** of logs that do not change: the records of the scan, and
behind them once more for each retry those of the failing logs. No two of them were found at the same place if and only
if there was no retry or no failing log has a record. -/
theorem readRecords_repeats (h : FreshScan plan visiting listing machine start after) {n k m : Nat}
    (hseparate : plan.results.Separate after.tree n k)
    (hshort : ∀ job ∈ listing.jobs, fails start.tree.readFile plan.profile job = true → job.path.length < Lines.narrow)
    (hdistinct : (listing.jobs.map Job.path).Nodup)
    (hrepeats : Repeats plan.profile plan.results.records plan.results.failures start.tree.readFile
      (failingIn start.tree.readFile plan.profile listing) m after last) :
    let found := foundIn start.tree.readFile plan.profile listing
    let again := rescanned start.tree.readFile plan.profile (failingIn start.tree.readFile plan.profile listing)
    (Store.readRecords plan.results.records : StateM Machine _).run last = (.ok (repeated found again m), last) ∧
    (((repeated found again m).map Record.position).Nodup ↔ m = 0 ∨
      ∀ job ∈ listing.jobs, fails start.tree.readFile plan.profile job = true →
        recordsIn start.tree.readFile plan.profile job = []) := by
  intro found again
  refine ⟨?_, nodup_repeated_iff hdistinct m⟩
  obtain ⟨hwf, hstore, hlist⟩ := h.leaves hseparate
  have hfirst : Grown plan.profile plan.results.records plan.results.failures start.tree.readFile found
      (failingIn start.tree.readFile plan.profile listing) 0 after.tree := by
    refine ⟨hwf, ?_, _, hseparate.readFile_failures.trans (congrArg _ hlist), .refl _, rfl⟩
    rw [hseparate.readFile_records, hstore]
    simp [repeated, found]
  have hfails : ∀ p ∈ failingIn start.tree.readFile plan.profile listing,
      fails start.tree.readFile plan.profile (jobAt p) = true := by
    intro p hp
    obtain ⟨_, -, -, hfails, -⟩ := exists_job_of_failing hp
    exact hfails
  have hlast := grown_of_repeats Run.nodup_failingIn (h.isListed hshort) hfails hfirst hrepeats
  refine readRecords_written hlast.store fun r hr => ?_
  rcases mem_repeated hr with hr | hr
  · exact h.storable r hr
  · exact h.storable_rescanned r hr

end EndToEnd

/-! ### a scan and two retries -/

/-- A log with a finding and a broken header, one with a broken header and one with a finding. -/
def partlyTree : Tree :=
  { nodes := [(["x"], .directory), (["a", "x"], .file 0), (["y"], .directory), (["b", "y"], .file 1), (["c"], .file 2),
      (["l"], .file 3)],
    contents := #[foundLog ++ Text.lf :: "warning: Here is cast(x)", "warning: Here is cast(x)", foundLog,
      Text.unlines ["p,x/a", "q,y/b", "q,c"]] }

def partlyListing : Listing := [⟨"p", ["x/a"]⟩, ⟨"q", ["y/b", "c"]⟩]

def partlyScan : ScanPlan :=
  { profile := ⟨"cast", [.cast], "cast.log"⟩, corpus := .listing "l", results := { records := "r", failures := "f" },
    fresh := true }

def partlyRetry : RetryPlan := { profile := partlyScan.profile, results := partlyScan.results }

/-- A command leaves its two results apart, and the logs that fail as they were. -/
def Leaves (machine : Machine) : Prop :=
  partlyScan.results.Separate machine.tree 4 5 ∧
    ∀ p ∈ [Text.ofString "x/a", "y/b"], machine.tree.readFile p = partlyTree.readFile p

instance : DecidablePred Leaves := fun _ => inferInstanceAs (Decidable (_ ∧ _))

theorem failingIn_partly : failingIn partlyTree.readFile partlyScan.profile partlyListing = [Text.ofString "x/a", "y/b"] := by
  decide +kernel

theorem freshScan_partly {start after : Machine} {summary : ScanSummary}
    (hlogs : ∀ job ∈ partlyListing.jobs, start.tree.readFile job.path = partlyTree.readFile job.path)
    (hbegins : ∃ cache, Yields (prepare partlyScan) { tree := partlyTree } (partlyListing, cache) start)
    (hscan : Yields (scanBy .oneByOne partlyScan) { tree := partlyTree } summary after) :
    FreshScan partlyScan .oneByOne partlyListing { tree := partlyTree } start after := by
  refine ⟨rfl, Tree.wellFormed_of_nodes (by decide) (by simp [partlyTree]), hbegins, ⟨summary, hscan⟩, by decide,
    by decide, fun job hjob content hcontent => ?_, fun hdirectory => absurd rfl hdirectory⟩
  have hsmall : ∀ v ∈ Run.visitsIn partlyTree.readFile partlyScan.profile partlyListing, v.Small := by decide +kernel
  have hvisit : (⟨partlyScan.profile, job, content⟩ : Run.Visit) ∈
      Run.visitsIn partlyTree.readFile partlyScan.profile partlyListing :=
    Run.mem_visitsIn.2 ⟨rfl, hjob, (hlogs job hjob).symm.trans hcontent⟩
  exact (hsmall _ hvisit).content

/-- A retry finds the logs again by their directories, and a second one with two workers does so too. -/
theorem readRecords_repeats_twice :
    ∃ summary after summary₁ middle summary₂ last,
      Yields (scan partlyScan) { tree := partlyTree } summary after ∧
      Yields (retry partlyRetry) after summary₁ middle ∧
      Yields (retryBy (.atOnce 2 8 [0, 1, 0, 1, 0, 1, 0, 1, 0, 1]) partlyRetry) middle summary₂ last ∧
      (Store.readRecords "r" : StateM Machine _).run last =
        (.ok [⟨.cast, "p", "f", "A", "B", "m", "L", "s", "x/a", 1⟩, ⟨.cast, "q", "f", "A", "B", "m", "L", "s", "c", 1⟩,
          ⟨.cast, "x", "f", "A", "B", "m", "L", "s", "x/a", 1⟩, ⟨.cast, "x", "f", "A", "B", "m", "L", "s", "x/a", 1⟩],
          last) := by
  obtain ⟨start, summary, after, hbegins, hscan, hlogs, hafter, hnext⟩ :=
    @exists_scanBy partlyScan .oneByOne partlyListing { tree := partlyTree } _
      (fun start _ after => (∀ job ∈ partlyListing.jobs, start.tree.readFile job.path = partlyTree.readFile job.path) ∧
        Leaves after ∧ ∃ q ∈ outcome? (retry partlyRetry) after, Leaves q.2 ∧
          ∃ q' ∈ outcome? (retryBy (.atOnce 2 8 [0, 1, 0, 1, 0, 1, 0, 1, 0, 1]) partlyRetry) q.2, Leaves q'.2)
      (fun _ _ => yields_of_opened?) (by decide +kernel)
  obtain ⟨summary₁, middle, hfirst, hmiddle, hnext⟩ : ∃ summary₁ middle,
      Yields (retry partlyRetry) after summary₁ middle ∧ Leaves middle ∧
      ∃ q' ∈ outcome? (retryBy (.atOnce 2 8 [0, 1, 0, 1, 0, 1, 0, 1, 0, 1]) partlyRetry) middle, Leaves q'.2 :=
    exists_yields hnext
  obtain ⟨summary₂, last, hsecond, hlast⟩ : ∃ summary₂ last,
      Yields (retryBy (.atOnce 2 8 [0, 1, 0, 1, 0, 1, 0, 1, 0, 1]) partlyRetry) middle summary₂ last ∧ Leaves last :=
    exists_yields hnext
  refine ⟨summary, after, summary₁, middle, summary₂, last, scanBy_oneByOne partlyScan ▸ hscan, hfirst, hsecond, ?_⟩
  have hfailing : failingIn start.tree.readFile partlyScan.profile partlyListing = [Text.ofString "x/a", "y/b"] :=
    (Run.failingIn_congr hlogs).trans failingIn_partly
  have hunchanged : ∀ p ∈ [Text.ofString "x/a", "y/b"], partlyTree.readFile p = start.tree.readFile p := by
    intro p hp
    rw [← failingIn_partly] at hp
    obtain ⟨job, hjob, -, rfl⟩ := Run.mem_failingIn.1 hp
    exact (hlogs job hjob).symm
  have hrepeats : Repeats partlyScan.profile "r" "f" start.tree.readFile
      (failingIn start.tree.readFile partlyScan.profile partlyListing) 2 after last := by
    rw [hfailing]
    refine .again (.again (.none after) ⟨⟨.oneByOne, after, summary₁, rfl, hfirst⟩, ?_, 4, 5, hmiddle.1⟩
      rfl rfl rfl) ⟨⟨_, middle, summary₂, rfl, hsecond⟩, ?_, 4, 5, hlast.1⟩ rfl rfl rfl
    · exact fun p hp => (hafter.2 p hp).trans (hunchanged p hp)
    · exact fun p hp => (hmiddle.2 p hp).trans (hunchanged p hp)
  have hshort : ∀ job ∈ partlyListing.jobs, job.path.length < Lines.narrow := by decide
  have hread := (readRecords_repeats (freshScan_partly hlogs hbegins hscan) hafter.1 (fun job hjob _ => hshort job hjob)
    (by decide) hrepeats).1
  have hagain : rescanned start.tree.readFile partlyScan.profile [Text.ofString "x/a", "y/b"] =
      [⟨.cast, "x", "f", "A", "B", "m", "L", "s", "x/a", 1⟩] := by
    rw [rescanned_congr (fun p hp => (hunchanged p hp).symm) rfl]
    decide +kernel
  have hfound : foundIn start.tree.readFile partlyScan.profile partlyListing =
      [⟨.cast, "p", "f", "A", "B", "m", "L", "s", "x/a", 1⟩, ⟨.cast, "q", "f", "A", "B", "m", "L", "s", "c", 1⟩] := by
    rw [Run.foundIn_congr hlogs]
    decide +kernel
  rw [hfailing, hagain, hfound] at hread
  exact hread

/-- **A finding that is stored twice.** The log of the only package below a root has a finding and a broken header. A
fresh scan stores the finding and lists the log, and a retry stores the finding once more. -/
theorem repeated_finding :
    let log : Text := Text.unlines
      ["warning: Here is cast(fn f>A>B=>mut>L)", "  --> src/a.rs:1:1", "warning: Here is cast(broken)"]
    let tree : Tree :=
      { nodes := [(["c"], .directory), (["p", "c"], .directory), (["lint_abp.log", "p", "c"], .file 0)],
        contents := #[log] }
    let profile : Profile := ⟨"lint", [.cast, .transmute], "lint_abp.log"⟩
    let results : Results := { records := "r.csv", failures := "f.txt" }
    let finding : Record := ⟨.cast, "p", "f", "A", "B", "mut", "L", "src/a.rs:1:1", "c/p/lint_abp.log", 1⟩
    profile ∈ Profile.all ∧ ∃ summary after summary' last,
      Yields (scan { profile, corpus := .root "c" "lint_abp.log", results, fresh := true }) { tree } summary after ∧
      Yields (retry { profile, results }) after summary' last ∧
      last.tree.readFile "c/p/lint_abp.log" = tree.readFile "c/p/lint_abp.log" ∧
      ((Store.readRecords "r.csv" : StateM Machine _).run after).1.toOption = some [finding] ∧
      ((Store.readRecords "r.csv" : StateM Machine _).run last).1.toOption = some [finding, finding] ∧
      ¬ ([finding, finding].map Record.position).Nodup := by
  intro log tree profile results finding
  refine ⟨.tail _ (.tail _ (.head _)), ?_⟩
  let plan : ScanPlan := { profile, corpus := .root "c" "lint_abp.log", results, fresh := true }
  have hload : (plan.corpus.load : StateM Machine _).run (begun { tree }) =
      (.ok [⟨"p", ["c/p/lint_abp.log"]⟩], begun { tree }) :=
    @load_root _ _ _ ["c"] [⟨"p", true⟩] (by decide +kernel) (by decide +kernel) (by decide +kernel) (by decide)
      (by decide)
  have hprepare : Yields (prepare plan) { tree } ([⟨"p", ["c/p/lint_abp.log"]⟩], none) (begun { tree }) :=
    prepare_yields rfl hload rfl
  obtain ⟨summary, after, hscan, hfound, hnext⟩ : ∃ summary after,
      Yields (scanListing .oneByOne plan ([⟨"p", ["c/p/lint_abp.log"]⟩], none)) (begun { tree }) summary after ∧
      ((Store.readRecords "r.csv" : StateM Machine _).run after).1.toOption = some [finding] ∧
      ∃ q ∈ outcome? (retry { profile, results }) after,
        q.2.tree.readFile "c/p/lint_abp.log" = tree.readFile "c/p/lint_abp.log" ∧
          ((Store.readRecords "r.csv" : StateM Machine _).run q.2).1.toOption = some [finding, finding] :=
    exists_yields (by decide +kernel)
  obtain ⟨summary', last, hretry, hsame, htwice⟩ : ∃ summary' last,
      Yields (retry { profile, results }) after summary' last ∧
      last.tree.readFile "c/p/lint_abp.log" = tree.readFile "c/p/lint_abp.log" ∧
      ((Store.readRecords "r.csv" : StateM Machine _).run last).1.toOption = some [finding, finding] := exists_yields hnext
  refine ⟨summary, after, summary', last, ?_, hretry, hsame, hfound, htwice, by simp⟩
  rw [← scanBy_oneByOne]
  exact yields_bind.2 ⟨_, _, hprepare, hscan⟩

end CastAudit.Command
