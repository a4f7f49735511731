import CastAudit.Proofs.Command.Finishing
import CastAudit.Proofs.Listing.Discovery
import CastAudit.Proofs.Run.Visiting

/-!
# The steps of a scan

A scan builds its listing and opens its cache, visits the logs, and writes what it found.

* `prepare plan`, `scanListing visiting plan` — what a scan does before its logs are visited, and from then on;
* `scanBy visiting plan` — a scan with its logs visited in some way, and `scanBy_oneByOne`: the serial one is `scan`;
* `prepare_ok`, `openCache_ok`, `scanBy_steps` — what a scan that succeeds has done;
* `exists_scanBy` — that a scan succeeds can be checked.
-/

namespace CastAudit.Command

open Disk (Machine Tree)
open Run (Visiting)

/-! ## scans -/

/-- What a scan does before it visits the logs: it builds the listing and opens the cache, if it has one. -/
def prepare (plan : ScanPlan) : ExceptT Fault (StateM Machine) (Listing × Option Cache) := do
  ExceptT.lift (Disk.Host.print "Step 1/3: Building corpus listing...\n")
  let listing ← ExceptT.mk plan.corpus.load
  ExceptT.lift (detail plan.verbose (corpusLine listing plan.profile))
  ExceptT.lift (detail plan.verbose ("header markers: " ++ quotedList plan.profile.markers))
  let cache ← ExceptT.mk (openCache plan.cacheDirectory)
  return (listing, cache)

/-- The logs of a listing are visited in some way, and what they hold is written. -/
def scanListing (visiting : Visiting) (plan : ScanPlan) (corpus : Listing × Option Cache) :
    ExceptT Fault (StateM Machine) ScanSummary := do
  let (listing, cache) := corpus
  ExceptT.lift (Disk.Host.print ("Step 2/3: Scanning " ++ Text.ofNat listing.logCount ++ " logs...\n"))
  let (result, events) ← ExceptT.mk (visiting.run plan.profile cache listing)
  ExceptT.lift (detailProgress plan.verbose events)
  ExceptT.lift (warnOfCache plan.cacheDirectory result.cacheFaults)
  ExceptT.lift (Disk.Host.print "Step 3/3: Writing results...\n")
  let summary ← finish plan.profile plan.results plan.verbose plan.fresh plan.fresh listing.logCount result
  ExceptT.lift (Disk.Host.print (scanLine summary plan.results.records))
  return summary

/-- A scan with its logs visited in some way. -/
def scanBy (visiting : Visiting) (plan : ScanPlan) : ExceptT Fault (StateM Machine) ScanSummary :=
  prepare plan >>= scanListing visiting plan

theorem scanBy_oneByOne (plan : ScanPlan) : scanBy .oneByOne plan = scan plan := by
  simp only [scanBy, prepare, scanListing, scan, bind_assoc, pure_bind]
  rfl

/-! ## before the logs are visited -/

section Opening

variable {directory : Text} {machine start : Machine}

/-- Opening a cache leads the process nowhere else. -/
theorem current_of_opened? {capacity : Int} {world : Run.World}
    (h : Run.World.opened? directory capacity machine = some world) :
    world.machine.tree.current = machine.tree.current := by
  rcases (Run.opened?_eq_some h).2 with hsame | ⟨-, hmade⟩
  · rw [hsame]
  · rw [hmade]
    exact (Disk.grown_makeDirectoriesFrom (Path.ancestors (Cache.folder directory)) machine).current

theorem directory_of_openAt {capacity : Int} {c : Cache}
    (h : (Cache.openAt directory capacity : StateM Machine _).run machine = (.ok c, start)) :
    c.directory = directory := by
  unfold Cache.openAt at h
  simp only at h
  split at h
  · cases h
    rfl
  · rw [Machine.run_seq] at h
    cases hmade : ((Disk.makeDirectories (Cache.folder directory) : StateM Machine _).run machine).1 with
    | error e =>
      rw [hmade] at h
      cases h
    | ok u =>
      rw [hmade] at h
      cases h
      rfl

/-- A scan without a directory for it has no cache, and one with a directory opens it there. -/
theorem openCache_ok {cache : Option Cache}
    (h : (openCache directory : StateM Machine _).run machine = (.ok cache, start)) :
    (directory = [] ∧ cache = none ∧ start = machine) ∨
      ∃ c, cache = some c ∧ directory ≠ [] ∧ c.directory = directory ∧
        Run.World.opened? directory Cache.defaultCapacity machine = some ⟨start, c.recent⟩ := by
  unfold openCache at h
  split at h
  · next hempty =>
    cases h
    exact .inl ⟨by simpa using hempty, rfl, rfl⟩
  · next hfilled =>
    have hd : directory ≠ [] := by simpa using hfilled
    rw [Machine.run_seq] at h
    cases hopen : (Cache.openAt directory Cache.defaultCapacity : StateM Machine _).run machine with
    | mk answer opened =>
      rw [hopen] at h
      cases answer with
      | error f => cases h
      | ok c =>
        cases h
        refine .inr ⟨c, rfl, hd, directory_of_openAt hopen, ?_⟩
        simp only [Run.World.opened?, hopen]

end Opening

section Steps

variable {plan : ScanPlan} {visiting : Visiting} {listing : Listing} {machine start after : Machine}

/-- Before the logs are visited, no file changes but for the directories of the cache. -/
theorem prepare_ok {cache : Option Cache} (h : Yields (prepare plan) machine (listing, cache) start) :
    ∃ before : Machine, before.tree = machine.tree ∧
      (openCache plan.cacheDirectory : StateM Machine _).run before = (.ok cache, start) := by
  obtain ⟨_, m₁, hprint, h⟩ := yields_bind.1 h
  obtain ⟨_, m₂, hload, h⟩ := yields_bind.1 h
  obtain ⟨_, m₃, hcorpus, h⟩ := yields_bind.1 h
  obtain ⟨_, m₄, hmarkers, h⟩ := yields_bind.1 h
  obtain ⟨_, m₅, hcache, h⟩ := yields_bind.1 h
  obtain ⟨heq, rfl⟩ := yields_pure.1 h
  obtain ⟨rfl, rfl⟩ := Prod.mk.inj heq
  refine ⟨m₄, ?_, yields_mk.1 hcache⟩
  have hquiet := (quiet_load plan.corpus).tree m₁
  rw [yields_mk.1 hload] at hquiet
  rw [hmarkers.quiet (quiet_detail _ _), hcorpus.quiet (quiet_detail _ _), hquiet, hprint.quiet (quiet_print _)]

theorem current_of_prepare {cache : Option Cache} (h : Yields (prepare plan) machine (listing, cache) start) :
    start.tree.current = machine.tree.current := by
  obtain ⟨before, hbefore, hopen⟩ := prepare_ok h
  rcases openCache_ok hopen with ⟨-, -, rfl⟩ | ⟨c, -, -, -, hopened⟩
  · rw [hbefore]
  · rw [← hbefore, ← current_of_opened? hopened]

/-! ## from then on -/

/-- A scan that began as said visits its logs and then leaves what it found. -/
theorem scanBy_steps {cache : Option Cache} {summary : ScanSummary}
    (hbegins : Yields (prepare plan) machine (listing, cache) start)
    (h : Yields (scanBy visiting plan) machine summary after) :
    ∃ told visited result events before finished, told.tree = start.tree ∧
      (visiting.run plan.profile cache listing).run told = (.ok (result, events), visited) ∧
      before.tree = visited.tree ∧
      Yields (finish plan.profile plan.results plan.verbose plan.fresh plan.fresh listing.logCount result) before summary
        finished ∧
      after.tree = finished.tree ∧ finished.printed <:+ after.printed := by
  obtain ⟨⟨listing', cache'⟩, start', hbegins', h⟩ := yields_bind.1 h
  obtain ⟨hsame, rfl⟩ := Prod.mk.inj (hbegins.symm.trans hbegins')
  obtain ⟨rfl, rfl⟩ := Prod.mk.inj (Except.ok.inj hsame)
  obtain ⟨_, told, hprint, h⟩ := yields_bind.1 h
  obtain ⟨⟨result, events⟩, visited, hrun, h⟩ := yields_bind.1 h
  obtain ⟨_, m₁, hprogress, h⟩ := yields_bind.1 h
  obtain ⟨_, m₂, hwarn, h⟩ := yields_bind.1 h
  obtain ⟨_, m₃, hprint', h⟩ := yields_bind.1 h
  obtain ⟨summary', finished, hfinish, h⟩ := yields_bind.1 h
  obtain ⟨_, m₄, hline, h⟩ := yields_bind.1 h
  obtain ⟨rfl, rfl⟩ := yields_pure.1 h
  refine ⟨told, visited, result, events, m₃, finished, hprint.quiet (quiet_print _), yields_mk.1 hrun, ?_, hfinish,
    hline.quiet (quiet_print _), hline.printed (quiet_print _)⟩
  rw [hprint'.quiet (quiet_print _), hwarn.quiet (quiet_warnOfCache _ _), hprogress.quiet (quiet_detailProgress _ _)]

/-! ## scans that can be checked -/

/-- A scan ends well once its cache is opened on a machine, and something holds of that machine, of the summary and of
the machine after it. -/
def EndsWell (visiting : Visiting) (plan : ScanPlan) (listing : Listing) (opened : Option (Option Cache × Machine))
    (Holds : Machine → ScanSummary → Machine → Prop) : Prop :=
  ∃ o ∈ opened, ∃ e ∈ outcome? (scanListing visiting plan (listing, o.1)) o.2, Holds o.2 e.1 e.2

instance (visiting : Visiting) (plan : ScanPlan) (listing : Listing) (opened : Option (Option Cache × Machine))
    (Holds : Machine → ScanSummary → Machine → Prop) [∀ start summary after, Decidable (Holds start summary after)] :
    Decidable (EndsWell visiting plan listing opened Holds) :=
  inferInstanceAs (Decidable (∃ o ∈ opened, ∃ e ∈ outcome? (scanListing visiting plan (listing, o.1)) o.2,
    Holds o.2 e.1 e.2))

/-- The cache of a scan and the machine with it, if the scan builds the listing. -/
def opened? (plan : ScanPlan) (listing : Listing) (machine : Machine) : Option (Option Cache × Machine) :=
  (outcome? (prepare plan) machine).bind fun p => if p.1.1 = listing then some (p.1.2, p.2) else none

theorem yields_of_opened? {cache : Option Cache} (h : opened? plan listing machine = some (cache, start)) :
    Yields (prepare plan) machine (listing, cache) start := by
  obtain ⟨⟨⟨listing', cache'⟩, start'⟩, hprepare, h⟩ := Option.bind_eq_some_iff.1 h
  split at h
  · next hlisting =>
    cases h
    cases hlisting
    exact yields_of_outcome? hprepare
  · cases h

/-- **A scan that begins and ends well succeeds.** -/
theorem exists_scanBy {opened : Option (Option Cache × Machine)} {Holds : Machine → ScanSummary → Machine → Prop}
    (hopened : ∀ cache start, opened = some (cache, start) → Yields (prepare plan) machine (listing, cache) start)
    (h : EndsWell visiting plan listing opened Holds) :
    ∃ start summary after, (∃ cache, Yields (prepare plan) machine (listing, cache) start) ∧
      Yields (scanBy visiting plan) machine summary after ∧ Holds start summary after := by
  obtain ⟨⟨cache, start⟩, hopen, ⟨summary, after⟩, hended, hholds⟩ := h
  have hbegins := hopened cache start hopen
  exact ⟨start, summary, after, ⟨cache, hbegins⟩, yields_bind.2 ⟨_, _, hbegins, yields_of_outcome? hended⟩, hholds⟩

end Steps

/-! ### packages below a root -/

/-- A root whose directories stand in order and are all packages. -/
theorem load_root {machine : Machine} {root logName : Text} {place : Disk.Place} {ds : List Disk.DirectoryEntry}
    (hl : machine.tree.locate root = .ok (.present place .directory)) (hnode : (machine.tree.node? place).isSome = true)
    (hchildren : machine.tree.children place = ds) (hsorted : ds.Pairwise fun a b => (!Text.before b.name a.name) = true)
    (hpackages : ∀ d ∈ ds, d.isDirectory = true ∧ d.name.head? ≠ some Text.dot ∧
      (Package.ofId d.name).brokenRules = []) :
    ((Corpus.root root logName).load : StateM Machine _).run machine =
      (.ok (ds.map fun d => Listing.entryOf root logName d.name), machine) := by
  have hkeep : ds.filter (fun d => d.isDirectory && d.name.head? != some Text.dot) = ds := by
    rw [List.filter_eq_self]
    intro d hd
    obtain ⟨hdirectory, hdot, -⟩ := hpackages d hd
    simp [hdirectory, hdot]
  have hentries : Listing.ofDirectory root logName ds = .ok (ds.map fun d => Listing.entryOf root logName d.name) := by
    rw [Listing.ofDirectory, hkeep]
    clear hchildren hsorted hkeep
    induction ds with
    | nil => rfl
    | cons d ds ih =>
      rw [List.forall_mem_cons] at hpackages
      have hrules : (Listing.entryOf root logName d.name).package.brokenRules = [] := hpackages.1.2.2
      simp only [List.mapM_cons, hrules, ih hpackages.2, List.map_cons]
      rfl
  rw [Corpus.load, Listing.discover_of_sorted hl hnode (hchildren ▸ hsorted), hchildren, hentries]

/-- The machine of a scan that has begun. -/
def begun (machine : Machine) : Machine :=
  { machine with printed := "Step 1/3: Building corpus listing...\n" :: machine.printed }

/-- A scan that tells nothing more builds its listing and opens its cache. -/
theorem prepare_yields {plan : ScanPlan} {machine start : Machine} {listing : Listing} {cache : Option Cache}
    (hverbose : plan.verbose = false)
    (hload : (plan.corpus.load : StateM Machine _).run (begun machine) = (.ok listing, begun machine))
    (hopen : (openCache plan.cacheDirectory : StateM Machine _).run (begun machine) = (.ok cache, start)) :
    Yields (prepare plan) machine (listing, cache) start := by
  unfold prepare
  rw [hverbose]
  exact yields_bind.2 ⟨(), begun machine, rfl, yields_bind.2 ⟨_, _, yields_mk.2 hload, yields_bind.2 ⟨(), _, rfl,
    yields_bind.2 ⟨(), _, rfl, yields_bind.2 ⟨cache, _, yields_mk.2 hopen, rfl⟩⟩⟩⟩⟩

end CastAudit.Command
