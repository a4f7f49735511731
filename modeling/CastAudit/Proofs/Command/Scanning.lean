import CastAudit.Proofs.Cache.Packing
import CastAudit.Proofs.Command.Steps
import CastAudit.Proofs.Run.Findings

/-!
# A scan from end to end

If old results are thrown away, the store and the failure list can be told from the logs alone: neither the workers nor
the cache show in them.

* `FilledByRuns directory visits machine` — nothing but runs through it has filled a cache;
* `FreshScan plan visiting listing machine start after` — a scan that throws old results away and succeeds, and
  `FreshScan.filled` — it leaves its cache as it needs it;
* `scan_fresh` — what is read from the store and from the failure list after it, and `scan_fresh_limits` — where that
  ends.
-/

namespace CastAudit.Command

open Disk (Machine Tree)
open Run (Visit Visiting Apart Holding Kept Reached Stored foundIn failingIn fails)

/-! ## the cache -/

/-- Nothing but runs through it has filled the cache: none of its files holds an entry yet, or a history of the cache
has led to what they hold. -/
def FilledByRuns (directory : Text) (visits : Visit → Prop) (machine : Machine) : Prop :=
  (∀ v, visits v → ∀ entry, ¬ Stored machine directory v.key entry) ∨
    ∃ world, Reached directory visits world ∧ world.machine = machine

section Cache

variable {directory : Text} {visits : Visit → Prop} {machine start : Machine}

/-- What a cache holds is in its memory and in the tree. -/
theorem holding_of_tree {good : Visit → Cache.Entry → Prop} {w w' : Run.World} (h : Holding directory good w)
    (htree : w'.machine.tree = w.machine.tree) (hrecent : w'.recent = w.recent) : Holding directory good w' where
  memory := hrecent ▸ h.memory
  files v entry hstored := h.files v entry (by simpa only [Stored, htree] using hstored)
  tree := htree ▸ h.tree

theorem reached_of_tree {w : Run.World} (h : Reached directory visits w) (hwf : w.machine.tree.WellFormed)
    (htree : machine.tree = w.machine.tree) : Reached directory visits ⟨machine, w.recent⟩ :=
  h.disturbed ⟨htree ▸ hwf, fun _ _ _ hstored => by simpa only [Stored, htree] using hstored⟩

/-- Where a cache is opened that runs have filled, its history goes on. -/
theorem reached_of_filled {capacity : Int} {before : Machine} {world : Run.World} (hwf : machine.tree.WellFormed)
    (h : FilledByRuns directory visits machine) (htree : before.tree = machine.tree)
    (hopened : Run.World.opened? directory capacity before = some world) : Reached directory visits world := by
  rcases h with hblank | ⟨world', hreached, rfl⟩
  · exact .opened (htree ▸ hwf)
      (fun v hv entry hstored => hblank v hv entry (by simpa only [Stored, htree] using hstored)) hopened
  · exact (reached_of_tree hreached hwf htree).reopened hopened

end Cache

/-! ## results -/

/-- A scan may use its cache: nothing but runs through it has filled it, the digests of all visits do not collide, and
no log lies in its folder. -/
structure ThroughCache (plan : ScanPlan) (listing : Listing) (machine start : Machine) (visits : Visit → Prop) : Prop where
  known : plan.profile ∈ Profile.all
  collisionFree : ∀ v v', visits v → visits v' → Digest.sha256 v.input = Digest.sha256 v'.input → v.input = v'.input
  small : ∀ v, visits v → v.Small
  filled : FilledByRuns plan.cacheDirectory visits machine
  visited : ∀ job ∈ listing.jobs, ∀ content, start.tree.readFile job.path = .ok content →
    visits ⟨plan.profile, job, content⟩
  apart : Apart plan.cacheDirectory listing start.tree

/-- A scan that throws old results away and succeeds. It starts on one machine, has built the listing and opened the
cache on another, and leaves a third. -/
structure FreshScan (plan : ScanPlan) (visiting : Visiting) (listing : Listing) (machine start after : Machine) :
    Prop where
  fresh : plan.fresh = true
  tree : machine.tree.WellFormed
  begins : ∃ cache, Yields (prepare plan) machine (listing, cache) start
  succeeds : ∃ summary, Yields (scanBy visiting plan) machine summary after
  packages : ∀ job ∈ listing.jobs, Text.lf ∉ job.packageId ∧ 0 ∉ job.packageId
  paths : ∀ job ∈ listing.jobs, Text.lf ∉ job.path ∧ Text.trim job.path = job.path
  sizes : ∀ job ∈ listing.jobs, ∀ content, start.tree.readFile job.path = .ok content →
    (content.length : Int) ≤ Text.maxInt64
  cache : plan.cacheDirectory ≠ [] → ∃ visits, ThroughCache plan listing machine start visits

section FreshScan

variable {plan : ScanPlan} {visiting : Visiting} {listing : Listing} {machine start after : Machine}

/-- When the visits of a scan begin, a history has led to its cache. -/
theorem ThroughCache.reached {visits : Visit → Prop} (h : ThroughCache plan listing machine start visits)
    (hwf : machine.tree.WellFormed) {cache : Option Cache} (hbegins : Yields (prepare plan) machine (listing, cache) start)
    (hd : plan.cacheDirectory ≠ []) {told : Machine} (htold : told.tree = start.tree) :
    told.tree.WellFormed ∧
      ∃ c, cache = some c ∧ c.directory = plan.cacheDirectory ∧ Reached c.directory visits ⟨told, c.recent⟩ := by
  obtain ⟨before, hbefore, hopen⟩ := prepare_ok hbegins
  rcases openCache_ok hopen with ⟨hnone, -⟩ | ⟨c, rfl, -, hdirectory, hopened⟩
  · exact absurd hnone hd
  · have hwf' : start.tree.WellFormed := (Run.disturbed_opened visits hopened (hbefore ▸ hwf)).tree
    refine ⟨htold ▸ hwf', c, rfl, hdirectory, ?_⟩
    rw [hdirectory]
    exact reached_of_tree (reached_of_filled hwf h.filled hbefore hopened) hwf' htold

/-- **The visits of a scan give the reading of its listing**, through a cache or not. -/
theorem FreshScan.reading (h : FreshScan plan visiting listing machine start after) {cache : Option Cache}
    (hbegins : Yields (prepare plan) machine (listing, cache) start) {told visited : Machine} {result : RunResult}
    {events : List Progress} (htold : told.tree = start.tree)
    (hrun : (visiting.run plan.profile cache listing).run told = (.ok (result, events), visited)) :
    visited.tree.WellFormed ∧ ∃ r, Run.Reading start.tree.readFile plan.profile listing r ∧
      result.records = r.records ∧ result.failures = r.failures := by
  have hreading := Run.reading_ofOutcomes start.tree.readFile plan.profile listing
  by_cases hd : plan.cacheDirectory = []
  · obtain ⟨before, hbefore, hopen⟩ := prepare_ok hbegins
    rcases openCache_ok hopen with ⟨-, rfl, rfl⟩ | ⟨-, -, hfilled, -⟩
    · obtain ⟨rfl, hresult⟩ := Visiting.run_uncached hrun
      rw [htold] at hresult
      refine ⟨?_, _, hreading, by rw [hresult], by rw [hresult]⟩
      rw [htold, hbefore]
      exact h.tree
    · exact absurd hd hfilled
  · obtain ⟨visits, hcache⟩ := h.cache hd
    have hf := Run.faithful_of_small hcache.collisionFree hcache.small
    obtain ⟨-, c, rfl, hdirectory, hreached⟩ := hcache.reached h.tree hbegins hd htold
    obtain ⟨hwf, hresult⟩ := Visiting.run_cached hf hrun (Run.kept_of_reached hf hreached) hcache.known
      (by rw [hdirectory, htold]; exact hcache.apart) (fun job hjob => (h.packages job hjob).2)
      (by rw [htold]; exact hcache.visited)
    rw [htold] at hresult
    have hrecords := congrArg RunResult.records hresult
    have hfailures := congrArg RunResult.failures hresult
    exact ⟨hwf, _, hreading, hrecords, hfailures⟩

/-- **What a fresh scan leaves**: the rows of the records found in the listing, and its failing logs. -/
theorem FreshScan.leaves (h : FreshScan plan visiting listing machine start after) {n k : Nat}
    (hseparate : plan.results.Separate after.tree n k) :
    after.tree.WellFormed ∧
    after.tree.content n = Csv.writeRows ((foundIn start.tree.readFile plan.profile listing).map Store.rowOf) ∧
    after.tree.content k = Text.unlines (failingIn start.tree.readFile plan.profile listing) := by
  obtain ⟨summary, hscan⟩ := h.succeeds
  obtain ⟨cache, hbegins⟩ := h.begins
  obtain ⟨told, visited, result, events, before, finished, htold, hrun, hvisited, hfinish, hafter, -⟩ :=
    scanBy_steps hbegins hscan
  obtain ⟨hwf, r, hreading, hrecords, hfailures⟩ := h.reading hbegins htold hrun
  rw [h.fresh] at hfinish
  rw [hafter] at hseparate
  obtain ⟨hwf', -, hstore, hlist⟩ := finish_leaves (hvisited ▸ hwf) hfinish hseparate
  rw [hafter, hstore, hlist, hrecords, hreading.records_eq, hfailures, hreading.distinctFilled_eq]
  exact ⟨hwf', rfl, rfl⟩

theorem FreshScan.storable (h : FreshScan plan visiting listing machine start after) :
    ∀ r ∈ foundIn start.tree.readFile plan.profile listing, r.Storable ∧ r.lineFeeds = r := by
  intro r hr
  obtain ⟨job, hjob, hr⟩ := List.mem_flatMap.1 hr
  exact Run.storable_of_mem_recordsIn (h.packages job hjob).1 (h.paths job hjob).1 (h.sizes job hjob) hr

/-- Failing logs whose paths are not long can stand in a list. -/
theorem FreshScan.isListed (h : FreshScan plan visiting listing machine start after)
    (hshort : ∀ job ∈ listing.jobs, fails start.tree.readFile plan.profile job = true → job.path.length < Lines.narrow) :
    ∀ p ∈ failingIn start.tree.readFile plan.profile listing, Store.IsListed p := by
  intro p hp
  obtain ⟨job, hjob, hfails, rfl⟩ := Run.mem_failingIn.1 hp
  exact ⟨Run.path_ne_nil_of_fails hfails, (h.paths job hjob).1, (h.paths job hjob).2, hshort job hjob hfails⟩

/-- **After a fresh scan its cache is again one that runs have filled**, if the scan has left no result in its folder. -/
theorem FreshScan.filled (h : FreshScan plan visiting listing machine start after) {visits : Visit → Prop}
    (hcache : ThroughCache plan listing machine start visits) (hd : plan.cacheDirectory ≠ []) {n k : Nat}
    (hseparate : plan.results.Separate after.tree n k)
    (houtside : plan.results.Outside after.tree (after.tree.placeOf (Cache.folder plan.cacheDirectory))) :
    FilledByRuns plan.cacheDirectory visits after ∧ after.tree.current = start.tree.current := by
  obtain ⟨summary, hscan⟩ := h.succeeds
  obtain ⟨cache, hbegins⟩ := h.begins
  obtain ⟨told, visited, result, events, before, finished, htold, hrun, hvisited, hfinish, hafter, -⟩ :=
    scanBy_steps hbegins hscan
  obtain ⟨hwf, c, rfl, hdirectory, hreached⟩ := hcache.reached h.tree hbegins hd htold
  rw [hdirectory] at hreached
  obtain ⟨world, hran, hcalm, rfl⟩ := Visiting.run_reached hrun (hdirectory.symm ▸ hreached) hwf hcache.known
    (by rw [hdirectory, htold]; exact hcache.apart) (fun job hjob => (h.packages job hjob).2)
    (by rw [htold]; exact hcache.visited)
  rw [hdirectory] at hran
  rw [h.fresh] at hfinish
  rw [hafter] at hseparate houtside
  have hbefore : before.tree.WellFormed := hvisited ▸ hcalm.tree
  obtain ⟨hwf', hextends, -, -⟩ := finish_leaves hbefore hfinish hseparate
  refine ⟨.inr ⟨_, hran.disturbed ⟨hafter ▸ hwf', ?_⟩, rfl⟩, ?_⟩
  · -- the results add no entry to the cache
    rintro v - entry ⟨-, bytes, hread, hrest⟩
    rw [hafter] at hread
    refine ⟨hd, bytes, ?_, hrest⟩
    rw [← hvisited]
    exact finish_outside hbefore hfinish houtside (Cache.parts_fileOf hd v.isKey).2 (Cache.placeOf_fileOf _ hd v.isKey)
      hread
  · rw [hafter, hextends.current, hvisited, hcalm.current, htold]

/-- A fresh scan can be made again on the machine that it leaves. -/
theorem FreshScan.again (h : FreshScan plan visiting listing machine start after) {n k : Nat}
    (hseparate : plan.results.Separate after.tree n k)
    (houtside : plan.cacheDirectory ≠ [] →
      plan.results.Outside after.tree (after.tree.placeOf (Cache.folder plan.cacheDirectory)))
    {visiting' : Visiting} {start' after' : Machine}
    (hbegins : ∃ cache, Yields (prepare plan) after (listing, cache) start')
    (hsucceeds : ∃ summary, Yields (scanBy visiting' plan) after summary after')
    (hlogs : ∀ job ∈ listing.jobs, start'.tree.readFile job.path = start.tree.readFile job.path) :
    FreshScan plan visiting' listing after start' after' where
  fresh := h.fresh
  tree := (h.leaves hseparate).1
  begins := hbegins
  succeeds := hsucceeds
  packages := h.packages
  paths := h.paths
  sizes job hjob content hread := h.sizes job hjob content (hlogs job hjob ▸ hread)
  cache hd := by
    obtain ⟨visits, hcache⟩ := h.cache hd
    obtain ⟨hfilled, hcurrent⟩ := h.filled hcache hd hseparate (houtside hd)
    obtain ⟨cache, hbegins⟩ := hbegins
    refine ⟨visits, hcache.known, hcache.collisionFree, hcache.small, hfilled, fun job hjob content hread => ?_, ?_⟩
    · exact hcache.visited job hjob content (hlogs job hjob ▸ hread)
    · exact hcache.apart.of_current ((current_of_prepare hbegins).trans hcurrent)

/-- **A fresh scan from end to end.** However its logs are visited and whether there is a cache or not, the records
read from the store are those of all logs in listing order, and the failing logs are those read from the list, if their
paths fit into its lines. Another such scan with the same listing, of logs that read the same, leaves the same bytes in
both files. So does a scan on the machine that this one leaves, if no result lies in the folder of the cache. -/
theorem scan_fresh (h : FreshScan plan visiting listing machine start after) {n k : Nat}
    (hseparate : plan.results.Separate after.tree n k)
    (hshort : ∀ job ∈ listing.jobs, fails start.tree.readFile plan.profile job = true →
      job.path.length < Lines.narrow) :
    (Store.readRecords plan.results.records : StateM Machine _).run after =
      (.ok (foundIn start.tree.readFile plan.profile listing), after) ∧
    (Store.readFailures plan.results.failures : StateM Machine _).run after =
      (.ok (failingIn start.tree.readFile plan.profile listing), after) ∧
    (∀ visiting' machine' start' after' n' k', FreshScan plan visiting' listing machine' start' after' →
      plan.results.Separate after'.tree n' k' →
      (∀ job ∈ listing.jobs, start'.tree.readFile job.path = start.tree.readFile job.path) →
      after'.tree.readFile plan.results.records = after.tree.readFile plan.results.records ∧
      after'.tree.readFile plan.results.failures = after.tree.readFile plan.results.failures) ∧
    ∀ visiting' start' after' n' k',
      (plan.cacheDirectory ≠ [] →
        plan.results.Outside after.tree (after.tree.placeOf (Cache.folder plan.cacheDirectory))) →
      (∃ cache, Yields (prepare plan) after (listing, cache) start') →
      (∃ summary, Yields (scanBy visiting' plan) after summary after') →
      plan.results.Separate after'.tree n' k' →
      (∀ job ∈ listing.jobs, start'.tree.readFile job.path = start.tree.readFile job.path) →
      after'.tree.readFile plan.results.records = after.tree.readFile plan.results.records ∧
      after'.tree.readFile plan.results.failures = after.tree.readFile plan.results.failures := by
  obtain ⟨-, hstore, hlist⟩ := h.leaves hseparate
  have hrecords := hseparate.readFile_records.trans (congrArg _ hstore)
  have hfailures := hseparate.readFile_failures.trans (congrArg _ hlist)
  have hother : ∀ visiting' machine' start' after' n' k', FreshScan plan visiting' listing machine' start' after' →
      plan.results.Separate after'.tree n' k' →
      (∀ job ∈ listing.jobs, start'.tree.readFile job.path = start.tree.readFile job.path) →
      after'.tree.readFile plan.results.records = after.tree.readFile plan.results.records ∧
      after'.tree.readFile plan.results.failures = after.tree.readFile plan.results.failures := by
    intro visiting' machine' start' after' n' k' h' hseparate' hlogs
    obtain ⟨-, hstore', hlist'⟩ := h'.leaves hseparate'
    rw [hrecords, hfailures, hseparate'.readFile_records, hseparate'.readFile_failures, hstore', hlist',
      Run.foundIn_congr hlogs, Run.failingIn_congr hlogs]
    exact ⟨rfl, rfl⟩
  refine ⟨readRecords_written hrecords h.storable,
    readFailures_written hfailures Run.nodup_failingIn (h.isListed hshort), hother, ?_⟩
  intro visiting' start' after' n' k' houtside hbegins hsucceeds hseparate' hlogs
  exact hother _ _ _ _ _ _ (h.again hseparate houtside hbegins hsucceeds hlogs) hseparate' hlogs

end FreshScan

/-! ## scans that can be checked -/

/-- What can be checked of a scan: its logs read in some way and lie apart from its cache, and its results are two files
that can be read. -/
structure Observed (plan : ScanPlan) (listing : Listing) (read : Text → Except Disk.Error Text) (n k : Nat)
    (start after : Machine) : Prop where
  logs : ∀ job ∈ listing.jobs, start.tree.readFile job.path = read job.path
  apart : Apart plan.cacheDirectory listing start.tree
  separate : plan.results.Separate after.tree n k

instance (plan : ScanPlan) (listing : Listing) (read : Text → Except Disk.Error Text) (n k : Nat)
    (start after : Machine) : Decidable (Observed plan listing read n k start after) :=
  decidable_of_iff ((∀ job ∈ listing.jobs, start.tree.readFile job.path = read job.path) ∧
      Apart plan.cacheDirectory listing start.tree ∧ plan.results.Separate after.tree n k)
    ⟨fun ⟨hlogs, hapart, hseparate⟩ => ⟨hlogs, hapart, hseparate⟩, fun h => ⟨h.logs, h.apart, h.separate⟩⟩

/-- A scan through a cache that holds no entry for its logs yet, if their digests differ. -/
theorem freshScan_of_logs {visiting : Visiting} {plan : ScanPlan} {listing : Listing} {machine start after : Machine}
    {read : Text → Except Disk.Error Text}
    (hlogs : ∀ job ∈ listing.jobs, start.tree.readFile job.path = read job.path)
    (hapart : Apart plan.cacheDirectory listing start.tree)
    (hbegins : ∃ cache, Yields (prepare plan) machine (listing, cache) start)
    (hscan : ∃ summary, Yields (scanBy visiting plan) machine summary after) (hfresh : plan.fresh = true)
    (hknown : plan.profile ∈ Profile.all) (hwf : machine.tree.WellFormed)
    (hpackages : ∀ job ∈ listing.jobs, Text.lf ∉ job.packageId ∧ 0 ∉ job.packageId)
    (hpaths : ∀ job ∈ listing.jobs, Text.lf ∉ job.path ∧ Text.trim job.path = job.path)
    (hsmall : ∀ v ∈ Run.visitsIn read plan.profile listing, v.Small)
    (hdigests : ((Run.visitsIn read plan.profile listing).map fun v => Digest.sha256 v.input).Nodup)
    (hblank : ∀ v ∈ Run.visitsIn read plan.profile listing,
      (machine.tree.readFile (Cache.fileOf plan.cacheDirectory v.key)).isOk = false) :
    FreshScan plan visiting listing machine start after := by
  have hvisited : ∀ job ∈ listing.jobs, ∀ content, start.tree.readFile job.path = .ok content →
      (⟨plan.profile, job, content⟩ : Visit) ∈ Run.visitsIn read plan.profile listing := by
    intro job hjob content hcontent
    exact Run.mem_visitsIn.2 ⟨rfl, hjob, (hlogs job hjob).symm.trans hcontent⟩
  refine ⟨hfresh, hwf, hbegins, hscan, hpackages, hpaths, ?_, fun _ => ⟨(· ∈ Run.visitsIn read plan.profile listing), ?_⟩⟩
  · exact fun job hjob content hcontent => (hsmall _ (hvisited job hjob content hcontent)).content
  · refine ⟨hknown, fun v v' hv hv' hsame => ?_, hsmall, .inl ?_, hvisited, hapart⟩
    · rw [List.inj_on_of_nodup_map hdigests hv hv' hsame]
    · rintro v hv entry ⟨-, bytes, hread, -⟩
      have hnone := hblank v hv
      rw [hread] at hnone
      cases hnone

/-- A scan that can read none of its logs may have any cache, as long as no log lies in its folder. -/
theorem freshScan_of_unreadable {visiting : Visiting} {plan : ScanPlan} {listing : Listing}
    {machine start after : Machine} {read : Text → Except Disk.Error Text}
    (hlogs : ∀ job ∈ listing.jobs, start.tree.readFile job.path = read job.path)
    (hapart : Apart plan.cacheDirectory listing start.tree)
    (hbegins : ∃ cache, Yields (prepare plan) machine (listing, cache) start)
    (hscan : ∃ summary, Yields (scanBy visiting plan) machine summary after) (hfresh : plan.fresh = true)
    (hknown : plan.profile ∈ Profile.all) (hwf : machine.tree.WellFormed)
    (hpackages : ∀ job ∈ listing.jobs, Text.lf ∉ job.packageId ∧ 0 ∉ job.packageId)
    (hpaths : ∀ job ∈ listing.jobs, Text.lf ∉ job.path ∧ Text.trim job.path = job.path)
    (hunreadable : ∀ job ∈ listing.jobs, (read job.path).isOk = false) :
    FreshScan plan visiting listing machine start after := by
  have hnone : Run.visitsIn read plan.profile listing = [] := by
    rw [List.eq_nil_iff_forall_not_mem]
    intro v hv
    obtain ⟨-, hjob, hread⟩ := Run.mem_visitsIn.1 hv
    have hfalse := hunreadable v.job hjob
    rw [hread] at hfalse
    cases hfalse
  exact freshScan_of_logs hlogs hapart hbegins hscan hfresh hknown hwf hpackages hpaths (by simp [hnone]) (by simp [hnone])
    (by simp [hnone])

/-! ### two packages, two workers and a cache -/

/-- A log with a finding. -/
def foundLog : Text := Text.join [Text.lf] ["warning: Here is cast(fn f>A>B=>m>L)", "--> s"]

/-- A log with a finding, one with a broken header, one that must not be read, and the list of their packages. -/
def mixedTree : Tree :=
  { nodes := [(["a"], .file 0), (["b"], .file 1), (["c"], .file 2), (["l"], .file 3)],
    contents := #[foundLog, "warning: Here is cast(x)", foundLog, Text.unlines ["p,a", "q,b", "p,c", "q,d"]],
    unreadable := [(2, .denied)] }

/-- The same tree with the results of an earlier scan. -/
def mixedTreeWithResults : Tree :=
  { mixedTree with
    nodes := (["r"], .file 4) :: (["f"], .file 5) :: mixedTree.nodes
    contents := (mixedTree.contents.push "old").push "old" }

/-- One more log is missing. -/
def mixedListing : Listing := [⟨"p", ["a", "c"]⟩, ⟨"q", ["b", "d"]⟩]

def mixedPlan : ScanPlan :=
  { profile := ⟨"cast", [.cast], "cast.log"⟩, corpus := .listing "l", results := { records := "r", failures := "f" },
    fresh := true, cacheDirectory := "k" }

theorem freshScan_mixed {visiting : Visiting} {t : Tree} {n k : Nat} {start after : Machine} (hwf : t.WellFormed)
    (hbegins : ∃ cache, Yields (prepare mixedPlan) { tree := t } (mixedListing, cache) start)
    (hscan : ∃ summary, Yields (scanBy visiting mixedPlan) { tree := t } summary after)
    (h : Observed mixedPlan mixedListing mixedTree.readFile n k start after)
    (hblank : ∀ v ∈ Run.visitsIn mixedTree.readFile mixedPlan.profile mixedListing,
      (t.readFile (Cache.fileOf "k" v.key)).isOk = false) :
    FreshScan mixedPlan visiting mixedListing { tree := t } start after :=
  freshScan_of_logs h.logs h.apart hbegins hscan rfl (.tail _ (.head _)) hwf (by decide) (by decide) (by decide +kernel)
    (by decide +kernel) hblank

/-- Two workers at a time scan the logs through an empty cache. One log after the other is scanned where old results are
to be thrown away, and once more on the machine of the first scan, where the finding is taken from the cache. The same
bytes are left. -/
theorem scan_fresh_interleaved :
    let choices : List Nat := [0, 1, 0, 1, 0, 1, 0, 1, 0, 1, 2, 0, 2, 0, 2, 0, 2, 0, 2, 3, 2, 3, 2, 3, 3, 3]
    ∃ summary after summary' after' summary'' after'',
      Yields (scanBy (.atOnce 2 8 choices) mixedPlan) { tree := mixedTree } summary after ∧
      Yields (scan mixedPlan) { tree := mixedTreeWithResults } summary' after' ∧
      Yields (scan mixedPlan) after summary'' after'' ∧ summary''.cached = 1 ∧
      (Store.readRecords "r" : StateM Machine _).run after =
        (.ok [⟨.cast, "p", "f", "A", "B", "m", "L", "s", "a", 1⟩], after) ∧
      (Store.readFailures "f" : StateM Machine _).run after = (.ok ["c", "b"], after) ∧
      after'.tree.readFile "r" = after.tree.readFile "r" ∧ after'.tree.readFile "f" = after.tree.readFile "f" ∧
      after''.tree.readFile "r" = after.tree.readFile "r" ∧ after''.tree.readFile "f" = after.tree.readFile "f" := by
  intro choices
  obtain ⟨start, summary, after, hbegins, hscan, hobserved, houtside, hnext⟩ :=
    @exists_scanBy mixedPlan (.atOnce 2 8 choices) mixedListing { tree := mixedTree } _
      (fun start _ after => Observed mixedPlan mixedListing mixedTree.readFile 5 6 start after ∧
        (∀ e ∈ after.tree.nodes, e.1.tail = after.tree.placeOf (Cache.folder "k") →
          ∀ n ∈ mixedPlan.results.files after.tree, e.2 ≠ .file n) ∧
        EndsWell .oneByOne mixedPlan mixedListing (opened? mixedPlan mixedListing after) fun start'' summary'' after'' =>
          Observed mixedPlan mixedListing mixedTree.readFile 5 6 start'' after'' ∧ summary''.cached = 1)
      (fun _ _ => yields_of_opened?) (by decide +kernel)
  obtain ⟨start', summary', after', hbegins', hscan', hobserved'⟩ :=
    @exists_scanBy mixedPlan .oneByOne mixedListing { tree := mixedTreeWithResults } _
      (fun start' _ after' => Observed mixedPlan mixedListing mixedTree.readFile 4 5 start' after')
      (fun _ _ => yields_of_opened?) (by decide +kernel)
  obtain ⟨start'', summary'', after'', hbegins'', hscan'', hobserved'', hcached⟩ :=
    exists_scanBy (fun _ _ => yields_of_opened?) hnext
  have h := freshScan_mixed (Tree.wellFormed_of_nodes (by decide) (by simp [mixedTree])) hbegins ⟨_, hscan⟩ hobserved
    (by decide +kernel)
  have h' := freshScan_mixed
    (Tree.wellFormed_of_nodes (by decide) (by simp [mixedTreeWithResults, mixedTree])) hbegins' ⟨_, hscan'⟩ hobserved'
    (by decide +kernel)
  have hlogs' : ∀ job ∈ mixedListing.jobs, start'.tree.readFile job.path = start.tree.readFile job.path :=
    fun job hjob => (hobserved'.logs job hjob).trans (hobserved.logs job hjob).symm
  have hlogs'' : ∀ job ∈ mixedListing.jobs, start''.tree.readFile job.path = start.tree.readFile job.path :=
    fun job hjob => (hobserved''.logs job hjob).trans (hobserved.logs job hjob).symm
  have hshort : ∀ job ∈ mixedListing.jobs, job.path.length < 65536 := by decide
  obtain ⟨hrecords, hfailures, hother, hagain⟩ := scan_fresh h hobserved.separate fun job hjob _ => hshort job hjob
  obtain ⟨hr', hf'⟩ := hother _ _ _ _ _ _ h' hobserved'.separate hlogs'
  obtain ⟨hr'', hf''⟩ := hagain _ _ _ _ _ (fun _ => Results.outside_of_nodes houtside) hbegins'' ⟨_, hscan''⟩
    hobserved''.separate hlogs''
  refine ⟨summary, after, summary', after', summary'', after'', hscan, scanBy_oneByOne mixedPlan ▸ hscan',
    scanBy_oneByOne mixedPlan ▸ hscan'', hcached, ?_, ?_, hr', hf', hr'', hf''⟩
  · have hfound : foundIn mixedTree.readFile mixedPlan.profile mixedListing =
      [⟨.cast, "p", "f", "A", "B", "m", "L", "s", "a", 1⟩] := by decide +kernel
    rw [← hfound, ← Run.foundIn_congr hobserved.logs]
    exact hrecords
  · have hfailing : failingIn mixedTree.readFile mixedPlan.profile mixedListing =
      ([Text.ofString "c", "b"] : List Text) := by decide +kernel
    rw [← hfailing, ← Run.failingIn_congr hobserved.logs]
    exact hfailures

/-! ## limits -/

/-- A root with one package and no log. -/
def rootTree : Tree := { nodes := [(["c"], .directory), (["p", "c"], .directory)] }

/-- A scan of the packages below the root. -/
def rootPlan (logName cacheDirectory : Text) : ScanPlan :=
  { profile := ⟨"cast", [.cast], "cast.log"⟩, corpus := .root "c" logName, results := { records := "r", failures := "f" },
    fresh := true, cacheDirectory }

theorem wellFormed_rootTree : rootTree.WellFormed := Tree.wellFormed_of_nodes (by decide) (by simp [rootTree])

theorem load_rootPlan (logName cacheDirectory : Text) (machine : Machine) (h : machine.tree = rootTree) :
    ((rootPlan logName cacheDirectory).corpus.load : StateM Machine _).run machine =
      (.ok [Listing.entryOf "c" logName "p"], machine) :=
  @load_root _ _ _ ["c"] [⟨"p", true⟩] (by rw [h]; decide +kernel) (by rw [h]; decide +kernel)
    (by rw [h]; decide +kernel) (by decide) (by decide)

/-! ### a path that is too long -/

theorem entryOf_root {name : Text} (hname : Path.IsName name) :
    Listing.entryOf "c" name "p" = ⟨"p", ["c/p/" ++ name]⟩ := by
  have hnames : ∀ x ∈ ([Text.ofString "c", "p", name] : List Text), Path.IsName x := by
    simp only [List.forall_mem_cons]
    exact ⟨⟨by decide, by decide, by decide, by decide⟩, ⟨by decide, by decide, by decide, by decide⟩, hname, by simp⟩
  rw [Listing.entryOf, Path.join_names (by simp) hnames]
  simp [Text.join]
  rfl

/-- The machine on which a scan of the one package writes its results. -/
def rootMachine : Machine :=
  { tree := rootTree, printed := ["Step 3/3: Writing results...\n", "Step 2/3: Scanning 1 logs...\n",
      "Step 1/3: Building corpus listing...\n"] }

/-- A run without records leaves its results beside the root. -/
theorem finish_root (profile : Profile) (result : RunResult) (hrecords : result.records = []) :
    ∃ finished, Yields (finish profile (rootPlan [] []).results false true true 1 result) rootMachine
      (summaryOf profile 1 result) finished ∧ (rootPlan [] []).results.Separate finished.tree 0 1 := by
  have hstored : ((writeRecords "r" true [] : StateM Machine _).run rootMachine).1.toOption = some () := by decide +kernel
  have hopened : ∀ opened, opened = (Store.openOutput "f" true : StateM Machine _).run
      ((writeRecords "r" true [] : StateM Machine _).run rootMachine).2 →
      opened.1.toOption.map Disk.OpenFile.node = some (.file 1) ∧ 1 < opened.2.tree.contents.size ∧
        opened.2.tree.fileOf? "r" = some 0 ∧ opened.2.tree.fileOf? "f" = some 1 ∧ opened.2.tree.unreadable = [] := by
    rintro opened rfl
    decide +kernel
  obtain ⟨hopen, hn, hr, hf, hunreadable⟩ := hopened _ rfl
  obtain ⟨file, hfile, hnode⟩ := Option.map_eq_some_iff.1 hopen
  obtain ⟨finished, hfailures, hextends⟩ := writeFailures_yields (Prod.ext (eq_ok_of_toOption hfile) rfl) hnode hn
    (retryList result.failures)
  refine ⟨finished, finish_yields rfl rfl ?_ hfailures, hextends.fileOf? hr, hextends.fileOf? hf, by decide, ?_,
    fun h => by cases h⟩
  · rw [hrecords]
    exact Prod.ext (eq_ok_of_toOption hstored) rfl
  · rw [hextends.unreadable, hunreadable]
    exact ⟨rfl, rfl⟩

/-- What a visit of a log whose path is too long answers: a failure and no records. -/
def refused (path : Text) : Outcome := .unreadable ⟨"p", path⟩ (.onPath .opening path .nameTooLong)

theorem run_refused {profile : Profile} {path : Text} {machine : Machine}
    (hread : machine.tree.readFile path = .error (.onPath .opening path .nameTooLong)) :
    (Visiting.oneByOne.run profile none [⟨"p", [path]⟩]).run machine =
      (.ok (RunResult.ofOutcomes [⟨"p", [path]⟩] [refused path], Run.progress [⟨"p", path⟩] [refused path]), machine) := by
  have hjobs : Listing.jobs [⟨"p", [path]⟩] = [⟨"p", path⟩] := rfl
  have hplain : Outcome.plain machine.tree.readFile profile ⟨"p", path⟩ = refused path := by
    simp only [Outcome.plain, hread]
    rfl
  rw [Visiting.run_oneByOne, hjobs, List.map_singleton, hplain]

/-- A scan of a log whose path is too long to be opened succeeds, and the log fails. -/
theorem scan_of_long_name {name : Text} (hname : Path.IsName name) (hzero : 0 ∉ name)
    (hlong : Tree.maxPath < name.length) :
    let path : Text := "c/p/" ++ name
    ∃ start summary after, Yields (prepare (rootPlan name [])) { tree := rootTree } ([⟨"p", [path]⟩], none) start ∧
      Yields (scanBy .oneByOne (rootPlan name [])) { tree := rootTree } summary after ∧
      Observed (rootPlan name []) [⟨"p", [path]⟩] rootTree.readFile 0 1 start after ∧
      rootTree.readFile path = .error (.onPath .opening path .nameTooLong) := by
  intro path
  have hread : rootTree.readFile path = .error (.onPath .opening path .nameTooLong) := by
    refine Tree.readFile_of_long ?_ ?_
    · rw [List.mem_append, not_or]
      exact ⟨by decide, hzero⟩
    · rw [List.length_append]
      omega
  have hload := load_rootPlan name [] (begun { tree := rootTree }) rfl
  rw [entryOf_root hname] at hload
  have hprepare : Yields (prepare (rootPlan name [])) { tree := rootTree } ([⟨"p", [path]⟩], none)
    (begun { tree := rootTree }) := prepare_yields rfl hload rfl
  obtain ⟨finished, hfinish, hseparate⟩ :=
    finish_root (rootPlan name []).profile (RunResult.ofOutcomes [⟨"p", [path]⟩] [refused path]) rfl
  refine ⟨_, _, _, hprepare, yields_bind.2 ⟨_, _, hprepare, yields_bind.2 ⟨(), _, rfl,
    yields_bind.2 ⟨_, _, yields_mk.2 (run_refused hread), yields_bind.2 ⟨(), _, rfl, yields_bind.2 ⟨(), _, rfl,
      yields_bind.2 ⟨(), _, rfl, yields_bind.2 ⟨_, _, hfinish, yields_bind.2 ⟨(), _, rfl, rfl⟩⟩⟩⟩⟩⟩⟩⟩, ?_, hread⟩
  exact ⟨fun _ _ => rfl, fun h => absurd rfl h, hseparate⟩

/-- **A failing log whose path is longer than a line makes the list unreadable.** -/
theorem readFailures_of_long_name {name : Text} (hname : Path.IsName name) (hvisible : ∀ b ∈ name, 0x20 < b ∧ b < 0x80)
    (hlong : Lines.narrow ≤ name.length) :
    let path : Text := "c/p/" ++ name
    ∃ machine start after, FreshScan (rootPlan name []) .oneByOne [⟨"p", [path]⟩] machine start after ∧
      (rootPlan name []).results.Separate after.tree 0 1 ∧
      failingIn start.tree.readFile (rootPlan name []).profile [⟨"p", [path]⟩] = [path] ∧
      (Store.readFailures "f" : StateM Machine _).run after =
        (.error (.store "f" .cannotReadList (some .longLine)), after) := by
  intro path
  have hvisible : ∀ b ∈ path, 0x20 < b ∧ b < 0x80 := by
    intro b hb
    rcases List.mem_append.1 hb with hb | hb
    · exact (by decide +kernel : ∀ b ∈ ("c/p/" : Text), 0x20 < b ∧ b < 0x80) b hb
    · exact hvisible b hb
  have hpath : Text.lf ∉ path ∧ Text.trim path = path :=
    ⟨fun hmem => absurd (hvisible _ hmem).1 (by decide), Text.trim_of_visible hvisible⟩
  have hzero : 0 ∉ name := fun hmem => absurd (hvisible _ (List.mem_append_right _ hmem)).1 (by decide)
  obtain ⟨start, summary, after, hbegins, hscan, hobserved, hread⟩ :=
    scan_of_long_name hname hzero (Nat.lt_of_lt_of_le (by decide) hlong)
  have hjobs : Listing.jobs [⟨"p", [path]⟩] = [⟨"p", path⟩] := rfl
  have hfresh : FreshScan (rootPlan name []) .oneByOne [⟨"p", [path]⟩] { tree := rootTree } start after := by
    refine freshScan_of_unreadable hobserved.logs hobserved.apart ⟨none, hbegins⟩ ⟨summary, hscan⟩ rfl
      (.tail _ (.head _)) wellFormed_rootTree ?_ ?_ ?_ <;> rw [hjobs, List.forall_mem_singleton]
    · exact (by decide : Text.lf ∉ ("p" : Text) ∧ 0 ∉ ("p" : Text))
    · exact hpath
    · exact congrArg Except.isOk hread
  have hfails : fails rootTree.readFile (rootPlan name []).profile ⟨"p", path⟩ = true := by
    have hread : rootTree.readFile path = _ := hread
    simp only [fails, hread]
    rfl
  have hroot : failingIn rootTree.readFile (rootPlan name []).profile [⟨"p", [path]⟩] = [path] := by
    simp [failingIn, hjobs, hfails, List.eraseDups_cons]
  have hfailing := (Run.failingIn_congr hobserved.logs).trans hroot
  refine ⟨_, start, after, hfresh, hobserved.separate, hfailing, ?_⟩
  have hlist := (hfresh.leaves hobserved.separate).2.2
  have hlines := @Store.failuresOf_of_long "f" [path] (by simpa using hpath.1) path (List.mem_singleton_self _)
    (by rw [List.length_append]; omega)
  rw [hfailing] at hlist
  have hrun : (Disk.Host.readFile "f" : StateM Machine _).run after = (after.tree.readFile "f", after) := rfl
  have hfile : after.tree.readFile "f" = .ok (after.tree.content 1) := hobserved.separate.readFile_failures
  rw [Store.readFailures, Machine.run_seq, hrun, hfile, hlist, ← hlines]
  rfl

/-! ### a cache below the root -/

/-- The listing of the root once the cache is in it. -/
def grownListing : Listing := [⟨"k", ["c/k/m"]⟩, ⟨"p", ["c/p/m"]⟩]

/-- The directory of the cache stands beside the package, and so the next scan takes it for one. -/
def Grows (start after : Machine) : Prop :=
  after.tree.locate "c" = .ok (.present ["c"] .directory) ∧ (after.tree.node? ["c"]).isSome = true ∧
    after.tree.children ["c"] = [⟨"k", true⟩, ⟨"p", true⟩] ∧
    EndsWell .oneByOne (rootPlan "m" "c/k/m") grownListing (outcome? (ExceptT.mk (openCache "c/k/m")) (begun after))
      fun start' _ after' => Observed (rootPlan "m" "c/k/m") grownListing start.tree.readFile 0 1 start' after' ∧
        after'.tree.readFile "f" = .ok "c/k/m\n"

instance (start after : Machine) : Decidable (Grows start after) := inferInstanceAs (Decidable (_ ∧ _ ∧ _ ∧ _))

/-- **A cache below the root may add a package to it.** The logs of both listings read the same in both scans, but only
the second scan asks for the log of the new package, and lists it. -/
theorem rescan_of_grown_root :
    ∃ machine start after start' after',
      FreshScan (rootPlan "m" "c/k/m") .oneByOne [⟨"p", ["c/p/m"]⟩] machine start after ∧
      FreshScan (rootPlan "m" "c/k/m") .oneByOne grownListing after start' after' ∧
      (rootPlan "m" "c/k/m").results.Separate after.tree 0 1 ∧ (rootPlan "m" "c/k/m").results.Separate after'.tree 0 1 ∧
      (∀ job ∈ grownListing.jobs, start'.tree.readFile job.path = start.tree.readFile job.path) ∧
      after.tree.readFile "f" = .ok [] ∧ after'.tree.readFile "f" = .ok "c/k/m\n" := by
  have hload := load_rootPlan "m" "c/k/m" (begun { tree := rootTree }) rfl
  obtain ⟨start, summary, after, hbegins, hscan, hfirst, hlist, hunreadable, hl, hnode, hchildren, hnext⟩ :=
    @exists_scanBy (rootPlan "m" "c/k/m") .oneByOne [⟨"p", ["c/p/m"]⟩] { tree := rootTree }
      (outcome? (ExceptT.mk (openCache "c/k/m")) (begun { tree := rootTree }))
      (fun start _ after => Observed (rootPlan "m" "c/k/m") [⟨"p", ["c/p/m"]⟩] rootTree.readFile 0 1 start after ∧
        after.tree.readFile "f" = .ok [] ∧ (∀ job ∈ grownListing.jobs, (start.tree.readFile job.path).isOk = false) ∧
        Grows start after)
      (fun _ _ hopened => prepare_yields rfl hload (yields_of_outcome? hopened)) (by decide +kernel)
  have hload' : ((rootPlan "m" "c/k/m").corpus.load : StateM Machine _).run (begun after) =
    (.ok grownListing, begun after) :=
    @load_root (begun after) "c" "m" ["c"] [⟨"k", true⟩, ⟨"p", true⟩] hl hnode hchildren (by decide) (by decide)
  obtain ⟨start', summary', after', hbegins', hscan', hsecond, hlist'⟩ :=
    exists_scanBy (fun _ _ hopened => prepare_yields rfl hload' (yields_of_outcome? hopened)) hnext
  have h : FreshScan (rootPlan "m" "c/k/m") .oneByOne [⟨"p", ["c/p/m"]⟩] { tree := rootTree } start after :=
    freshScan_of_unreadable hfirst.logs hfirst.apart hbegins ⟨_, hscan⟩ rfl (.tail _ (.head _)) wellFormed_rootTree
      (by decide +kernel) (by decide +kernel) (by decide +kernel)
  have h' : FreshScan (rootPlan "m" "c/k/m") .oneByOne grownListing after start' after' :=
    freshScan_of_unreadable hsecond.logs hsecond.apart hbegins' ⟨_, hscan'⟩ rfl (.tail _ (.head _))
      (h.leaves hfirst.separate).1 (by decide +kernel) (by decide +kernel) hunreadable
  exact ⟨_, start, after, start', after', h, h', hfirst.separate, hsecond.separate, hsecond.logs, hlist, hlist'⟩

/-! ### results that are misplaced -/

/-- A log with a finding, its listing and a store, of which some may not be read. -/
def oneLogTree (unreadable : List (Nat × Disk.Refusal)) : Tree :=
  { nodes := [(["a"], .file 0), (["l"], .file 1), (["r"], .file 2)], contents := #[foundLog, Text.unlines ["p,a"], []],
    unreadable }

def oneLogPlan (summary : Text) : ScanPlan :=
  { profile := ⟨"cast", [.cast], "cast.log"⟩, corpus := .listing "l",
    results := { records := "r", failures := "f", summary }, fresh := true }

/-- **Misplaced results do not give the records back.** -/
theorem readRecords_of_misplaced : ∀ q ∈ [(Text.ofString "r", []), ([], [(2, Disk.Refusal.denied)])],
    ∃ machine start after, FreshScan (oneLogPlan q.1) .oneByOne [⟨"p", ["a"]⟩] machine start after ∧
      after.tree.fileOf? "r" = some 2 ∧ after.tree.fileOf? "f" = some 3 ∧ after.tree.unreadable = q.2 ∧
      ((Store.readRecords "r" : StateM Machine _).run after).1.toOption ≠
        some (foundIn start.tree.readFile (oneLogPlan q.1).profile [⟨"p", ["a"]⟩]) := by
  have hchecked : ∀ q ∈ [(Text.ofString "r", []), ([], [(2, Disk.Refusal.denied)])],
      EndsWell .oneByOne (oneLogPlan q.1) [⟨"p", ["a"]⟩] (opened? (oneLogPlan q.1) [⟨"p", ["a"]⟩] { tree := oneLogTree q.2 })
        fun start _ after => start.tree.readFile "a" = (oneLogTree []).readFile "a" ∧
          after.tree.fileOf? "r" = some 2 ∧ after.tree.fileOf? "f" = some 3 ∧ after.tree.unreadable = q.2 ∧
          ((Store.readRecords "r" : StateM Machine _).run after).1.toOption ≠
            some (foundIn start.tree.readFile (oneLogPlan q.1).profile [⟨"p", ["a"]⟩]) := by decide +kernel
  intro q hq
  obtain ⟨start, summary, after, hbegins, hscan, hread, hresults⟩ :=
    exists_scanBy (fun _ _ => yields_of_opened?) (hchecked q hq)
  have hwf : (oneLogTree q.2).WellFormed :=
    Tree.wellFormed_of_nodes (by simp [oneLogTree, Tree.node?]) (by simp [oneLogTree])
  refine ⟨{ tree := oneLogTree q.2 }, start, after, ⟨rfl, hwf, hbegins, ⟨_, hscan⟩, by decide, by decide, ?_,
    fun hdirectory => absurd rfl hdirectory⟩, hresults⟩
  intro job hjob content hcontent
  obtain rfl : job = ⟨"p", "a"⟩ := List.mem_singleton.1 hjob
  have hlog : (oneLogTree []).readFile "a" = .ok foundLog := by decide +kernel
  cases (hread.trans hlog).symm.trans hcontent
  decide

/-- **What a fresh scan does not promise.** A failing log whose path is longer than a line of the list makes the list
unreadable, a summary that is written over the store replaces the records, a store that may be written but not read
is not read, and a cache below the root may add a package to the listing of the next scan. -/
theorem scan_fresh_limits :
    (let name : Text := List.replicate 65536 0x61
      let path : Text := "c/p/" ++ name
      let plan : ScanPlan :=
        { profile := ⟨"cast", [.cast], "cast.log"⟩, corpus := .root "c" name,
          results := { records := "r", failures := "f" }, fresh := true }
      ∃ machine start after, FreshScan plan .oneByOne [⟨"p", [path]⟩] machine start after ∧
        plan.results.Separate after.tree 0 1 ∧
        failingIn start.tree.readFile plan.profile [⟨"p", [path]⟩] = [path] ∧
        (Store.readFailures "f" : StateM Machine _).run after =
          (.error (.store "f" .cannotReadList (some .longLine)), after)) ∧
    (let plan (summary : Text) : ScanPlan :=
        { profile := ⟨"cast", [.cast], "cast.log"⟩, corpus := .listing "l",
          results := { records := "r", failures := "f", summary }, fresh := true }
      ∀ summary unreadable, (summary, unreadable) ∈ [(Text.ofString "r", []), ([], [(2, Disk.Refusal.denied)])] →
        ∃ machine start after, FreshScan (plan summary) .oneByOne [⟨"p", ["a"]⟩] machine start after ∧
          after.tree.fileOf? "r" = some 2 ∧ after.tree.fileOf? "f" = some 3 ∧ after.tree.unreadable = unreadable ∧
          ((Store.readRecords "r" : StateM Machine _).run after).1.toOption ≠
            some (foundIn start.tree.readFile (plan summary).profile [⟨"p", ["a"]⟩])) ∧
    (let plan : ScanPlan :=
        { profile := ⟨"cast", [.cast], "cast.log"⟩, corpus := .root "c" "m",
          results := { records := "r", failures := "f" }, fresh := true, cacheDirectory := "c/k/m" }
      let listing : Listing := [⟨"p", ["c/p/m"]⟩]
      let grown : Listing := [⟨"k", ["c/k/m"]⟩, ⟨"p", ["c/p/m"]⟩]
      ∃ machine start after start' after', FreshScan plan .oneByOne listing machine start after ∧
        FreshScan plan .oneByOne grown after start' after' ∧ plan.results.Separate after.tree 0 1 ∧
        plan.results.Separate after'.tree 0 1 ∧
        (∀ job ∈ grown.jobs, start'.tree.readFile job.path = start.tree.readFile job.path) ∧
        after.tree.readFile "f" = .ok [] ∧ after'.tree.readFile "f" = .ok "c/k/m\n") := by
  refine ⟨?_, fun summary unreadable hmem => readRecords_of_misplaced _ hmem, rescan_of_grown_root⟩
  intro name path plan
  have hbytes : ∀ b ∈ name, b = 0x61 := fun b hb => List.eq_of_mem_replicate hb
  have hlong : name.length = 65536 := List.length_replicate
  refine readFailures_of_long_name ?_ (fun b hb => ?_) hlong.ge
  · refine ⟨fun h => ?_, fun h => ?_, fun h => ?_, fun h => absurd (hbytes _ h) (by decide)⟩ <;>
      rw [h] at hlong <;> cases hlong
  · rw [hbytes b hb]
    decide

end CastAudit.Command
