import CastAudit.Proofs.Command.Retrying
import CastAudit.Proofs.Command.Scanning
import CastAudit.Proofs.Report.Sources
import CastAudit.Proofs.Run.Counts

/-!
# Reports that commands write

Every command that writes a report in JSON writes one that satisfies its schema. A summary is the exception: what a cache
tells of a log is believed, so it must not tell of less than no lines or headers.

* `Delivered path text machine` — a text was printed, or is the content of a file;
* `Reported path report machine` — the text of a report was delivered and satisfies its schema;
* `Surveyed plan listing machine start` — what the summary of a scan rests on, and `Believable`, what it needs of a cache;
* `reports_satisfy_schemas` — what commands report, and `summary_of_false_entry` — what they report of a cache that was
  tampered with.
-/

namespace CastAudit.Command

open Disk (Machine Tree)
open Run (Visit Visitable Visiting Apart Holding Stored Within EntriesWithin)

/-! ## documents -/

/-- The text was delivered: it is printed if the path stands for the standard output, by the command itself if nothing
was printed before it, else the file at the path holds it. A device keeps nothing. -/
def Delivered (path text : Text) (machine : Machine) : Prop :=
  if isStandard path then text ∈ machine.printed
  else (∃ n, machine.tree.fileOf? path = some n ∧ machine.tree.content n = text) ∨
    ∃ place accepts, machine.tree.locate path = .ok (.present place (.device accepts))

/-- The report was written, and what was written satisfies its schema. -/
structure Reported (path : Text) (report : Report) (machine : Machine) : Prop where
  delivered : Delivered path (report.print ++ [Text.lf]) machine
  valid : Report.validateText report.schema (report.print ++ [Text.lf]) = .ok ()

section Documents

variable {machine after : Machine} {path text : Text} {report : Report}

theorem Delivered.later (h : Delivered path text machine) (htree : after.tree = machine.tree)
    (hprinted : machine.printed <:+ after.printed) : Delivered path text after := by
  unfold Delivered at h ⊢
  rw [htree]
  split
  · next hstandard =>
    rw [if_pos hstandard] at h
    exact hprinted.mem h
  · next hstandard => rwa [if_neg hstandard] at h

theorem delivered_of_written {t : Tree} (hwf : t.WellFormed) (hstandard : isStandard path = false)
    (h : t.Written path true text machine.tree) : Delivered path text machine := by
  rw [Delivered, if_neg (by simp [hstandard])]
  obtain ⟨file, t₁, hopened, happend⟩ := id h
  rcases hopened.node_cases with ⟨n, hnode⟩ | ⟨accepts, hnode, -⟩
  · have hfile := (Tree.extends_append happend).fileOf? (hopened.fileOf? hnode)
    refine .inl ⟨n, hfile, ?_⟩
    rw [h.content hwf (.inr hfile), if_pos hfile]
    rfl
  · obtain ⟨place, hl⟩ := hopened.locate
    exact .inr ⟨place, accepts, hnode ▸ (Tree.extends_append happend).locate hl⟩

theorem delivered_of_writeReport (hwf : machine.tree.WellFormed)
    (h : (writeReport path report : StateM Machine _).run machine = (.ok (), after)) :
    Delivered path (report.print ++ [Text.lf]) after := by
  rcases writeReport_ok hwf h with ⟨hstandard, -, hprinted⟩ | ⟨hstandard, hwritten⟩
  · rwa [Delivered, if_pos hstandard]
  · exact delivered_of_written hwf hstandard hwritten

/-- Printing a report does not fail. -/
theorem writeReport_standard (hstandard : isStandard path = true) (report : Report) (machine : Machine) :
    ∃ after, (writeReport path report : StateM Machine _).run machine = (.ok (), after) := by
  have hwrite : (writeOutput path (report.print ++ [Text.lf]) : StateM Machine _).run machine =
      (.ok (), { machine with printed := (report.print ++ [Text.lf]) :: machine.printed }) := by
    rw [writeOutput, if_pos hstandard]
    rfl
  rw [writeReport, Machine.run_seq, hwrite]
  exact ⟨_, rfl⟩

/-- A sound report that is written is reported. -/
theorem Report.Sound.reported (hsound : report.Sound) (hwf : machine.tree.WellFormed)
    (h : (writeReport path report : StateM Machine _).run machine = (.ok (), after)) : Reported path report after :=
  ⟨delivered_of_writeReport hwf h, Report.validateText_of_sound hsound⟩

end Documents

/-! ## the commands that only read -/

/-- A record store is read from the tree alone. -/
theorem run_readRecords {path : Text} {machine other : Machine} (h : other.tree = machine.tree)
    {answer : Except Fault (List Record)} {after : Machine}
    (hrun : (Store.readRecords path : StateM Machine _).run other = (answer, after)) :
    (Store.readRecords path : StateM Machine _).run machine = (answer, machine) := by
  have hread (m : Machine) : (Disk.Host.readFile path : StateM Machine _).run m = (m.tree.readFile path, m) := rfl
  rw [Store.readRecords, Machine.run_seq, hread] at hrun ⊢
  rw [h] at hrun
  cases hfile : machine.tree.readFile path <;> rw [hfile] at hrun <;> rw [← (Prod.mk.inj hrun).1] <;> rfl

/-- Records that are read if there are any are those of the store. -/
theorem run_recordsIfAny {path : Text} {machine after : Machine} {records : List Record}
    (h : (recordsIfAny path : StateM Machine _).run machine = (.ok (some records), after)) :
    (Store.readRecords path : StateM Machine _).run machine = (.ok records, after) := by
  unfold recordsIfAny at h
  split at h
  · cases (Prod.mk.inj h).1
  · rw [Machine.run_seq] at h
    cases hrun : (Store.readRecords path : StateM Machine _).run machine with
    | mk answer between =>
      rw [hrun] at h
      cases answer with
      | error f => cases (Prod.mk.inj h).1
      | ok found =>
        cases h
        rfl

section Reading

variable {machine after : Machine} {dest : Destination}

theorem yields_liftM {α : Type} {x : Except Fault α} {a : α} :
    Yields (liftM x) machine a after ↔ x = .ok a ∧ machine = after := by
  have hrun : Yields (liftM x) machine a after ↔ (x, machine) = (.ok a, after) := Iff.rfl
  rw [hrun, Prod.mk.injEq]

theorem yields_throw {α : Type} {f : Fault} {a : α} : ¬Yields (throw f) machine a after := nofun

/-- What is loaded has what the loader promises. -/
theorem Yields.loaded {α : Type} {p : StateM Machine (Except Fault α)} {P : α → Prop} (hp : Loads p P) {a : α}
    (h : Yields (ExceptT.mk p) machine a after) : P a :=
  hp machine a after (yields_mk.1 h)

/-- A report that is asked for in JSON is made for JSON. -/
theorem yields_json {α : Type} {f : Format → ExceptT Fault (StateM Machine) α} {a : α} (hjson : dest.format = "json") :
    Yields (liftM (Format.find dest.format) >>= f) machine a after ↔ Yields (f .json) machine a after := by
  have hfind : Format.find dest.format = .ok .json := by
    rw [hjson]
    rfl
  rw [yields_bind]
  constructor
  · rintro ⟨format, m, hformat, h⟩
    obtain ⟨hsame, rfl⟩ := yields_liftM.1 hformat
    cases hfind.symm.trans hsame
    exact h
  · exact fun h => ⟨_, _, yields_liftM.2 ⟨hfind, rfl⟩, h⟩

/-- The patterns of the records in a store are written, cut to the first few. -/
theorem yields_reportPatterns {store : Text} {top : Int} (hjson : dest.format = "json") (htop : 0 ≤ top) :
    Yields (reportPatterns store top dest) machine () after ↔
      ∃ records m₁ m₂, (Store.readRecords store : StateM Machine _).run machine = (.ok records, m₁) ∧
        let report := PatternReport.ofCounts (Pattern.frequency records) top
        (detailBox dest.verbose (Box.patterns report.patterns) : StateM Machine _).run m₁ = ((), m₂) ∧
        (writeReport dest.path (.patterns report.total (some report.patterns)) : StateM Machine _).run m₂ =
          (.ok (), after) := by
  have hneg : ¬top < 0 := by omega
  unfold reportPatterns
  rw [yields_json hjson]
  simp only [hneg, if_false, yields_bind, yields_mk, yields_lift]
  constructor
  · rintro ⟨records, m₁, hread, _, m₂, hbox, hreport⟩
    exact ⟨records, m₁, m₂, hread, hbox, hreport⟩
  · rintro ⟨records, m₁, m₂, hread, hbox, hreport⟩
    exact ⟨records, m₁, hread, _, m₂, hbox, hreport⟩

/-- The packages of a metadata table are ranked by the stars of their repositories and written. -/
theorem yields_reportRanking {input : RankInput} (hjson : dest.format = "json") :
    Yields (reportRanking input dest) machine () after ↔ (input.buggyOnly && input.records.isEmpty) = false ∧
      ∃ stars rows records packages m₁ m₂ m₃ m₄ m₅,
        (Ranking.loadStars input.stars : StateM Machine _).run machine = (.ok stars, m₁) ∧
        (Ranking.loadMetadata input.metadata : StateM Machine _).run m₁ = (.ok rows, m₂) ∧
        (detail dest.verbose (tablesLine stars rows) : StateM Machine _).run m₂ = ((), m₃) ∧
        (recordsIfAny input.records : StateM Machine _).run m₃ = (.ok records, m₄) ∧
        let all := Ranking.rank (records.map Ranking.findingCounts) stars rows
        let ranked := if input.buggyOnly then Ranking.buggy all (records.getD []) else all
        (detailBox dest.verbose (Box.ranked ranked) : StateM Machine _).run m₄ = ((), m₅) ∧
        Ranking.popularityEntries ranked = .ok packages ∧
        (writeReport dest.path (.ranking (some ranked) packages) : StateM Machine _).run m₅ = (.ok (), after) := by
  unfold reportRanking
  rw [yields_json hjson]
  cases hinput : input.buggyOnly && input.records.isEmpty with
  | true =>
    refine ⟨fun h => ?_, fun h => by cases h.1⟩
    obtain ⟨_, _, hthrow, -⟩ := yields_bind.1 h
    exact absurd hthrow yields_throw
  | false =>
    simp only [Bool.false_eq_true, if_false, yields_bind, yields_mk, yields_lift, yields_liftM, true_and]
    constructor
    · rintro ⟨stars, m₁, hstars, rows, m₂, hrows, _, m₃, hline, records, m₄, hrecords, _, m₅, hbox, packages, _,
        ⟨hpackages, rfl⟩, hreport⟩
      exact ⟨stars, rows, records, packages, m₁, m₂, m₃, m₄, m₅, hstars, hrows, hline, hrecords, hbox, hpackages, hreport⟩
    · rintro ⟨stars, rows, records, packages, m₁, m₂, m₃, m₄, m₅, hstars, hrows, hline, hrecords, hbox, hpackages, hreport⟩
      exact ⟨stars, m₁, hstars, rows, m₂, hrows, (), m₃, hline, records, m₄, hrecords, (), m₅, hbox, packages, m₅,
        ⟨hpackages, rfl⟩, hreport⟩

/-- The marked lines of the packages below a root are counted and written. -/
theorem yields_reportMarkers {root reportName : Text} (hjson : dest.format = "json") :
    Yields (reportMarkers root reportName dest) machine () after ↔
      ∃ listing summary m₁ m₂ m₃,
        (Listing.discover root reportName : StateM Machine _).run machine = (.ok listing, m₁) ∧
        (Markers.countListing listing : StateM Machine _).run m₁ = (.ok summary, m₂) ∧
        (detailBox dest.verbose (Box.markers summary) : StateM Machine _).run m₂ = ((), m₃) ∧
        (writeReport dest.path (.markers (some summary.packages) summary.castTotal summary.transmuteTotal
          summary.missing) : StateM Machine _).run m₃ = (.ok (), after) := by
  unfold reportMarkers
  rw [yields_json hjson]
  simp only [yields_bind, yields_mk, yields_lift]
  constructor
  · rintro ⟨listing, m₁, hlisting, summary, m₂, hsummary, _, m₃, hbox, hreport⟩
    exact ⟨listing, summary, m₁, m₂, m₃, hlisting, hsummary, hbox, hreport⟩
  · rintro ⟨listing, summary, m₁, m₂, m₃, hlisting, hsummary, hbox, hreport⟩
    exact ⟨listing, m₁, hlisting, summary, m₂, hsummary, (), m₃, hbox, hreport⟩

/-- **The patterns of every store that can be read** are reported, and printing them does not fail. -/
theorem reportPatterns_reported {store : Text} {top : Int} {records : List Record} {m : Machine}
    (hwf : machine.tree.WellFormed) (hjson : dest.format = "json") (htop : 0 ≤ top)
    (hread : (Store.readRecords store : StateM Machine _).run machine = (.ok records, m))
    (hlength : records.length < 2 ^ 63) :
    (isStandard dest.path = true → ∃ after, Yields (reportPatterns store top dest) machine () after) ∧
    ∀ after, Yields (reportPatterns store top dest) machine () after →
      let report := PatternReport.ofCounts (Pattern.frequency records) top
      Reported dest.path (.patterns report.total (some report.patterns)) after := by
  have hsound := sound_patterns hlength (loads_readRecords store machine records m hread) top
  refine ⟨fun hstandard => ?_, fun after h => ?_⟩
  · obtain ⟨after, hreport⟩ := writeReport_standard hstandard _ _
    exact ⟨after, (yields_reportPatterns hjson htop).2 ⟨records, m, _, hread, rfl, hreport⟩⟩
  · obtain ⟨records', m₁, m₂, hread', hbox, hreport⟩ := (yields_reportPatterns hjson htop).1 h
    obtain ⟨hsame, rfl⟩ := Prod.mk.inj (hread.symm.trans hread')
    cases hsame
    have hwf₂ : m₂.tree.WellFormed := by
      rw [(quiet_detailBox _ _).tree_eq hbox, (quiet_readRecords store).tree_eq hread]
      exact hwf
    exact Report.Sound.reported hsound hwf₂ hreport

/-- **Every ranking that is written** is reported. -/
theorem reportRanking_reported {input : RankInput} (hwf : machine.tree.WellFormed) (hjson : dest.format = "json")
    (hlength : ∀ records, (Store.readRecords input.records : StateM Machine _).run machine = (.ok records, machine) →
      records.length < 2 ^ 63)
    (h : Yields (reportRanking input dest) machine () after) :
    ∃ ranked packages, Reported dest.path (.ranking (some ranked) packages) after := by
  obtain ⟨-, stars, rows, records, packages, m₁, m₂, m₃, m₄, m₅, hstars, hrows, hline, hrecords, hbox, hpackages,
    hreport⟩ := (yields_reportRanking hjson).1 h
  have htree₃ : m₃.tree = machine.tree := by
    rw [(quiet_detail _ _).tree_eq hline, (quiet_loadMetadata _).tree_eq hrows, (quiet_loadStars _).tree_eq hstars]
  have hsmall : ∀ rs ∈ records, rs.length < 2 ^ 63 := by
    rintro rs ⟨⟩
    exact hlength rs (run_readRecords htree₃ (run_recordsIfAny hrecords))
  have hall := Ranking.soundRank_rank hsmall (Ranking.loads_stars _ _ _ _ hstars) (Ranking.loads_metadata _ _ _ _ hrows)
  have hranked : ∀ p ∈ (if input.buggyOnly then
      Ranking.buggy (Ranking.rank (records.map Ranking.findingCounts) stars rows) (records.getD [])
      else Ranking.rank (records.map Ranking.findingCounts) stars rows), Report.SoundRank p := by
    split
    · refine Ranking.soundRank_buggy ?_ hall
      cases records with
      | none => exact Nat.two_pow_pos 63
      | some rs => exact hsmall rs rfl
    · exact hall
  have hwf₅ : m₅.tree.WellFormed := by
    rw [(quiet_detailBox _ _).tree_eq hbox, (quiet_recordsIfAny _).tree_eq hrecords, htree₃]
    exact hwf
  exact ⟨_, packages, Report.Sound.reported (Ranking.sound_ranking hranked hpackages) hwf₅ hreport⟩

/-- **The marked lines of every root that can be counted** are reported. -/
theorem reportMarkers_reported {root reportName : Text} (hwf : machine.tree.WellFormed) (hjson : dest.format = "json")
    (h : Yields (reportMarkers root reportName dest) machine () after) :
    ∃ s : MarkerSummary,
      Reported dest.path (.markers (some s.packages) s.castTotal s.transmuteTotal s.missing) after := by
  obtain ⟨listing, summary, m₁, m₂, m₃, hlisting, hsummary, hbox, hreport⟩ := (yields_reportMarkers hjson).1 h
  have hids := loads_discover root reportName machine listing m₁ hlisting
  have hsound := Markers.loads_countListing hids m₁ summary m₂ hsummary
  have hwf₃ : m₃.tree.WellFormed := by
    rw [(quiet_detailBox _ _).tree_eq hbox, (quiet_countListing _).tree_eq hsummary,
      (quiet_load (.root root reportName)).tree_eq hlisting]
    exact hwf
  exact ⟨summary, Report.Sound.reported hsound hwf₃ hreport⟩

/-- What was ranked can be printed, if nothing is told before. -/
theorem exists_reportRanking {input : RankInput} {stars : Ranking.StarTable} {rows : List Ranking.Metadata}
    {records : Option (List Record)} (packages : List Package) (hjson : dest.format = "json")
    (hstandard : isStandard dest.path = true) (hverbose : dest.verbose = false)
    (hinput : (input.buggyOnly && input.records.isEmpty) = false)
    (hstars : (Ranking.loadStars input.stars : StateM Machine _).run machine = (.ok stars, machine))
    (hrows : (Ranking.loadMetadata input.metadata : StateM Machine _).run machine = (.ok rows, machine))
    (hrecords : (recordsIfAny input.records : StateM Machine _).run machine = (.ok records, machine))
    (hpackages : let all := Ranking.rank (records.map Ranking.findingCounts) stars rows
      Ranking.popularityEntries (if input.buggyOnly then Ranking.buggy all (records.getD []) else all) = .ok packages) :
    ∃ after, Yields (reportRanking input dest) machine () after := by
  obtain ⟨after, hreport⟩ := writeReport_standard hstandard (.ranking (some (if input.buggyOnly then
    Ranking.buggy (Ranking.rank (records.map Ranking.findingCounts) stars rows) (records.getD [])
    else Ranking.rank (records.map Ranking.findingCounts) stars rows)) packages) machine
  refine ⟨after, (yields_reportRanking hjson).2 ⟨hinput, stars, rows, records, packages, machine, machine, machine,
    machine, machine, hstars, hrows, ?_, hrecords, ?_, hpackages, hreport⟩⟩ <;> rw [hverbose] <;> rfl

/-- What was counted can be printed, if nothing is told before. -/
theorem exists_reportMarkers {root reportName : Text} {listing : Listing} {counted : MarkerSummary}
    (hjson : dest.format = "json") (hstandard : isStandard dest.path = true) (hverbose : dest.verbose = false)
    (hlisting : (Listing.discover root reportName : StateM Machine _).run machine = (.ok listing, machine))
    (hcounted : (Markers.countListing listing : StateM Machine _).run machine = (.ok counted, machine)) :
    ∃ after, Yields (reportMarkers root reportName dest) machine () after := by
  obtain ⟨after, hreport⟩ := writeReport_standard hstandard (.markers (some counted.packages) counted.castTotal
    counted.transmuteTotal counted.missing) machine
  refine ⟨after, (yields_reportMarkers hjson).2 ⟨listing, counted, machine, machine, machine, hlisting, hcounted, ?_,
    hreport⟩⟩
  rw [hverbose]
  rfl

end Reading

/-! ## summaries -/

section Summaries

variable {machine start after : Machine} {visiting : Visiting} {summary : ScanSummary}

/-- The summary of a run is reported, if the lines and headers that it counted are not below zero. -/
theorem finish_reported {profile : Profile} {results : Results} {verbose freshRecords freshFailures : Bool} {logs : Nat}
    {result : RunResult} (hwf : machine.tree.WellFormed) (hprofile : profile ∈ Profile.all)
    (hcounts : 0 ≤ result.lines ∧ 0 ≤ result.headers) (hsummary : results.summary ≠ [])
    (h : Yields (finish profile results verbose freshRecords freshFailures logs result) machine summary after) :
    Reported results.summary (.scan summary) after := by
  obtain ⟨rfl, t₁, m, hfirst, hsecond, hlast⟩ := finish_steps hwf h
  rcases hlast with ⟨hnone, -⟩ | ⟨m', hreport, htree, hprinted⟩
  · exact absurd hnone hsummary
  · have hwf' := hsecond.wellFormed (hfirst.wellFormed hwf)
    exact ⟨(delivered_of_writeReport hwf' hreport).later htree hprinted,
      Report.validateText_of_sound (sound_summary hprofile hcounts.1 hcounts.2 logs)⟩

/-- A scan may believe its cache: whatever it may find in its logs is within a limit, and so are the entries that the
cache has for that. -/
structure Believable (plan : ScanPlan) (listing : Listing) (machine start : Machine) (limit : Nat) : Prop where
  entries : ∀ v, Visitable plan.cacheDirectory start.tree plan.profile listing v → ∀ entry,
    Stored machine plan.cacheDirectory v.key entry → Within limit entry.lines entry.headers
  logs : ∀ v, Visitable plan.cacheDirectory start.tree plan.profile listing v → v.Small ∧ v.content.length ≤ limit
  total : listing.jobs.length * limit < 2 ^ 63

/-- What the summary of a scan rests on: a profile that is known, logs that are not too large together, and a cache, if
there is one, that can be believed. -/
structure Surveyed (plan : ScanPlan) (listing : Listing) (machine start : Machine) : Prop where
  known : plan.profile ∈ Profile.all
  begins : ∃ cache, Yields (prepare plan) machine (listing, cache) start
  sizes : (listing.jobs.map (Run.sizeIn start.tree.readFile)).sum < 2 ^ 63
  cache : plan.cacheDirectory ≠ [] → ∃ limit, Believable plan listing machine start limit

/-- The visits of a scan count no less than zero. -/
theorem counts_of_run {plan : ScanPlan} {listing : Listing} (hwf : machine.tree.WellFormed)
    (hsurveyed : Surveyed plan listing machine start) {cache : Option Cache}
    (hbegins : Yields (prepare plan) machine (listing, cache) start) {told visited : Machine} {result : RunResult}
    {events : List Progress} (htold : told.tree = start.tree)
    (hrun : (visiting.run plan.profile cache listing).run told = (.ok (result, events), visited)) :
    visited.tree.WellFormed ∧ 0 ≤ result.lines ∧ 0 ≤ result.headers := by
  obtain ⟨before, hbefore, hopen⟩ := prepare_ok hbegins
  rcases openCache_ok hopen with ⟨-, rfl, rfl⟩ | ⟨c, rfl, hd, hdirectory, hopened⟩
  · have hreading := Run.reading_ofOutcomes start.tree.readFile plan.profile listing
    obtain ⟨rfl, hresult⟩ := Visiting.run_uncached hrun
    rw [htold] at hresult
    rw [← hresult] at hreading
    refine ⟨?_, hreading.counts_nonneg hsurveyed.sizes⟩
    rw [htold, hbefore]
    exact hwf
  · obtain ⟨limit, hcache⟩ := hsurveyed.cache hd
    -- the entries are within the limit when the cache is opened, and so when the visits begin
    have hfirst : Holding plan.cacheDirectory
        (EntriesWithin limit (Visitable plan.cacheDirectory told.tree plan.profile listing))
        ⟨before, { capacity := 0 }⟩ := by
      refine ⟨fun v entry hmem => by simp at hmem, fun v entry hstored hv => ?_, hbefore ▸ hwf⟩
      rw [htold] at hv
      exact hcache.entries v hv entry (by simpa only [Stored, hbefore] using hstored)
    refine Visiting.run_within hrun ?_ ?_ hcache.total <;> rw [hdirectory]
    · exact holding_of_tree (hfirst.opened hopened) htold rfl
    · rw [htold]
      exact hcache.logs

/-- **The summary of a scan** is reported. -/
theorem scanBy_reported {plan : ScanPlan} {listing : Listing} (hwf : machine.tree.WellFormed)
    (hsurveyed : Surveyed plan listing machine start) (hsummary : plan.results.summary ≠ [])
    (h : Yields (scanBy visiting plan) machine summary after) : Reported plan.results.summary (.scan summary) after := by
  obtain ⟨cache, hbegins⟩ := hsurveyed.begins
  obtain ⟨told, visited, result, events, before, finished, htold, hrun, hvisited, hfinish, htree, hprinted⟩ :=
    scanBy_steps hbegins h
  obtain ⟨hwf', hcounts⟩ := counts_of_run hwf hsurveyed hbegins htold hrun
  have hreported := finish_reported (hvisited ▸ hwf') hsurveyed.known hcounts hsummary hfinish
  exact ⟨hreported.delivered.later htree hprinted, hreported.valid⟩

/-- **The summary of a retry** is reported. -/
theorem retryBy_reported {plan : RetryPlan} {failed : List Text} (hwf : machine.tree.WellFormed)
    (hprofile : plan.profile ∈ Profile.all)
    (hlist : (Store.readFailures plan.results.failures : StateM Machine _).run machine = (.ok failed, machine))
    (hne : failed ≠ [])
    (hsizes : ((Listing.ofFailures failed).jobs.map (Run.sizeIn machine.tree.readFile)).sum < 2 ^ 63)
    (hsummary : plan.results.summary ≠ []) (h : Yields (retryBy visiting plan) machine summary after) :
    Reported plan.results.summary (.scan summary) after := by
  obtain ⟨told, visited, result, events, before, finished, htold, hrun, hvisited, hfinish, htree, hprinted⟩ :=
    retryBy_steps hlist hne h
  have hreading := Run.reading_ofOutcomes machine.tree.readFile plan.profile (Listing.ofFailures failed)
  obtain ⟨rfl, hresult⟩ := Visiting.run_uncached hrun
  rw [htold] at hresult hvisited
  rw [← hresult] at hreading
  have hreported := finish_reported (hvisited ▸ hwf) hprofile (hreading.counts_nonneg hsizes) hsummary hfinish
  exact ⟨hreported.delivered.later htree hprinted, hreported.valid⟩

end Summaries

/-! ## all reports -/

/-- **Every report in JSON satisfies its schema.** The patterns of a store that can be read are reported whatever its
records are, and so is every ranking that is written and every count of marked lines. So is the summary of a scan or of a
retry, however the logs are visited, if what a cache tells of them can be believed. -/
theorem reports_satisfy_schemas {machine : Machine} (hwf : machine.tree.WellFormed) :
    (∀ (store : Text) (top : Int) (dest : Destination) (records : List Record), dest.format = "json" → 0 ≤ top →
      (Store.readRecords store : StateM Machine _).run machine = (.ok records, machine) → records.length < 2 ^ 63 →
      (isStandard dest.path = true → ∃ after, Yields (reportPatterns store top dest) machine () after) ∧
      ∀ after, Yields (reportPatterns store top dest) machine () after →
        let report := PatternReport.ofCounts (Pattern.frequency records) top
        Reported dest.path (.patterns report.total (some report.patterns)) after) ∧
    (∀ (input : RankInput) (dest : Destination) (after : Machine), dest.format = "json" →
      (∀ records, (Store.readRecords input.records : StateM Machine _).run machine = (.ok records, machine) →
        records.length < 2 ^ 63) →
      Yields (reportRanking input dest) machine () after →
      ∃ ranked packages, Reported dest.path (.ranking (some ranked) packages) after) ∧
    (∀ (root reportName : Text) (dest : Destination) (after : Machine), dest.format = "json" →
      Yields (reportMarkers root reportName dest) machine () after →
      ∃ s : MarkerSummary,
        Reported dest.path (.markers (some s.packages) s.castTotal s.transmuteTotal s.missing) after) ∧
    (∀ (visiting : Visiting) (plan : ScanPlan) (listing : Listing) (start : Machine) (summary : ScanSummary)
      (after : Machine), Surveyed plan listing machine start → plan.results.summary ≠ [] →
      Yields (scanBy visiting plan) machine summary after →
      Reported plan.results.summary (.scan summary) after) ∧
    ∀ (visiting : Visiting) (plan : RetryPlan) (failed : List Text) (summary : ScanSummary) (after : Machine),
      plan.profile ∈ Profile.all →
      (Store.readFailures plan.results.failures : StateM Machine _).run machine = (.ok failed, machine) → failed ≠ [] →
      ((Listing.ofFailures failed).jobs.map (Run.sizeIn machine.tree.readFile)).sum < 2 ^ 63 →
      plan.results.summary ≠ [] → Yields (retryBy visiting plan) machine summary after →
      Reported plan.results.summary (.scan summary) after :=
  ⟨fun _ _ _ _ hjson htop hread hlength => reportPatterns_reported hwf hjson htop hread hlength,
    fun _ _ _ hjson hlength h => reportRanking_reported hwf hjson hlength h,
    fun _ _ _ _ hjson h => reportMarkers_reported hwf hjson h,
    fun _ _ _ _ _ _ hsurveyed hsummary h => scanBy_reported hwf hsurveyed hsummary h,
    fun _ _ _ _ _ hprofile hlist hne hsizes hsummary h => retryBy_reported hwf hprofile hlist hne hsizes hsummary h⟩

/-! ### five reports from one tree -/

/-- The only log of a listing, as a scan visits it. -/
def onlyVisit : Visit := ⟨⟨"cast", [.cast], "cast.log"⟩, ⟨"p", "a"⟩, foundLog⟩

def bugReport : Record := ⟨.brokenLayout, "q", "g", [], [], [], [], "t.rs:1", "x", 7⟩

/-- A store with a bug report, the tables that rank its package, a listing with one log, a list with its path, a root
with one report, and a cache with the entry of the log. -/
def fullTree : Tree :=
  { nodes := [(["r"], .file 0), (["s"], .file 1), (["m"], .file 2), (["l"], .file 3), (["a"], .file 4), (["f"], .file 5),
      (["c"], .directory), (["q", "c"], .directory), (["t", "q", "c"], .file 6), (["k"], .directory),
      (["scans", "k"], .directory), ([Cache.fileName onlyVisit.key, "scans", "k"], .file 7)],
    contents := #["q,broken-layout,g,,,,,t.rs:1,x,7\n", "o/q,5\n", "q,1.0,o/q\n", "p,a\n", foundLog, "a\n",
      "cast::ptr-ptr\n", onlyVisit.entry.pack] }

theorem wellFormed_fullTree : fullTree.WellFormed :=
  Tree.wellFormed_of_nodes (by decide +kernel) (by simp [fullTree])

def buggyInput : RankInput := { stars := "s", metadata := "m", records := "r", buggyOnly := true }

def cachedScan : ScanPlan :=
  { profile := onlyVisit.profile, corpus := .listing "l", results := { records := "r", failures := "g", summary := "o" },
    cacheDirectory := "k" }

def listedRetry : RetryPlan :=
  { profile := onlyVisit.profile, results := { records := "r", failures := "f", summary := "-" } }

theorem readRecords_full :
    (Store.readRecords "r" : StateM Machine _).run { tree := fullTree } = (.ok [bugReport], { tree := fullTree }) :=
  Prod.ext (eq_ok_of_toOption (by decide +kernel)) rfl

theorem reportRanking_full :
    ∃ after, Yields (reportRanking buggyInput { format := "json" }) { tree := fullTree } () after := by
  have hstars : (Ranking.loadStars "s" : StateM Machine _).run { tree := fullTree } =
    (.ok [("o/q", 5)], { tree := fullTree }) := Prod.ext (eq_ok_of_toOption (by decide +kernel)) rfl
  have hrows : (Ranking.loadMetadata "m" : StateM Machine _).run { tree := fullTree } =
    (.ok [⟨"q", "1.0", "o/q"⟩], { tree := fullTree }) := Prod.ext (eq_ok_of_toOption (by decide +kernel)) rfl
  have hrecords : (recordsIfAny "r" : StateM Machine _).run { tree := fullTree } =
    (.ok (some [bugReport]), { tree := fullTree }) := Prod.ext (eq_ok_of_toOption (by decide +kernel)) rfl
  -- a single package need not be sorted
  have hrank : Ranking.rank (some (Ranking.findingCounts [bugReport])) [("o/q", 5)] [⟨"q", "1.0", "o/q"⟩] =
      [⟨1, "q", "1.0", 5, 1⟩] := by
    have hchosen : Ranking.firstById ([(⟨"q", "1.0", "o/q"⟩ : Ranking.Metadata)].filterMap
      (Ranking.join? (some (Ranking.findingCounts [bugReport])) [("o/q", 5)])) = [⟨0, "q", "1.0", 5, 1⟩] := by
      decide +kernel
    rw [Ranking.rank, hchosen, List.mergeSort_singleton]
    rfl
  refine exists_reportRanking [⟨"q", "1.0", some 5⟩] rfl rfl rfl rfl hstars hrows hrecords ?_
  simp only [Option.map_some, hrank]
  exact eq_ok_of_toOption (by decide +kernel)

theorem reportMarkers_full :
    ∃ after, Yields (reportMarkers "c" "t" { format := "json" }) { tree := fullTree } () after := by
  have hlisting : (Listing.discover "c" "t" : StateM Machine _).run { tree := fullTree } =
    (.ok [⟨"q", ["c/q/t"]⟩], { tree := fullTree }) :=
    @load_root { tree := fullTree } "c" "t" ["c"] [⟨"q", true⟩] (by decide +kernel) (by decide +kernel)
      (by decide +kernel) (by decide) (by decide)
  have hcounted : (Markers.countListing [⟨"q", ["c/q/t"]⟩] : StateM Machine _).run { tree := fullTree } =
    (.ok { packages := [⟨"q", 1, 0⟩], castTotal := 1 }, { tree := fullTree }) :=
    Prod.ext (eq_ok_of_toOption (by decide +kernel)) rfl
  exact exists_reportMarkers rfl rfl rfl hlisting hcounted

/-- The cache has the entry of the only log, and so it can be believed. -/
theorem surveyed_full {start : Machine}
    (hbegins : ∃ cache, Yields (prepare cachedScan) { tree := fullTree } ([⟨"p", ["a"]⟩], cache) start)
    (hread : start.tree.readFile "a" = .ok foundLog) (hapart : Apart "k" [⟨"p", ["a"]⟩] start.tree) :
    Surveyed cachedScan [⟨"p", ["a"]⟩] { tree := fullTree } start := by
  have honly {v : Visit} (hv : Visitable "k" start.tree onlyVisit.profile [⟨"p", ["a"]⟩] v) : v = onlyVisit := by
    obtain ⟨hprofile, hjob, hcontent⟩ := hv.among_of_apart (by decide) hapart
    obtain ⟨profile, job, content⟩ := v
    obtain rfl : job = ⟨"p", "a"⟩ := List.mem_singleton.1 hjob
    cases hprofile
    cases hread.symm.trans hcontent
    rfl
  have hsmall : onlyVisit.Small := by decide +kernel
  have hbelievable : Believable cachedScan [⟨"p", ["a"]⟩] { tree := fullTree } start foundLog.length := by
    refine ⟨fun v hv entry hstored => ?_, fun v hv => ?_, by decide⟩
    · rw [honly hv] at hstored
      have hfile : fullTree.readFile (Cache.fileOf "k" onlyVisit.key) = .ok onlyVisit.entry.pack := by decide +kernel
      obtain ⟨-, bytes, hbytes, hunpack, -⟩ := hstored
      cases hfile.symm.trans hbytes
      rw [Run.unpack?_entry hsmall] at hunpack
      exact Option.some.inj hunpack ▸ Run.within_scan (Nat.le_refl _)
    · rw [honly hv]
      exact ⟨hsmall, Nat.le_refl _⟩
  refine ⟨.tail _ (.head _), hbegins, ?_, fun _ => ⟨_, hbelievable⟩⟩
  have hjobs : Listing.jobs [⟨"p", ["a"]⟩] = [⟨"p", "a"⟩] := rfl
  rw [hjobs, List.map_singleton, List.sum_singleton, Run.sizeIn, hread]
  decide

/-- All five commands report on this tree. -/
theorem reports_satisfy_schemas_all :
    let machine : Machine := { tree := fullTree }
    let printed : Destination := { format := "json" }
    (∃ report after, Yields (reportPatterns "r" 3 printed) machine () after ∧ Reported [] report after) ∧
    (∃ report after, Yields (reportRanking buggyInput printed) machine () after ∧ Reported [] report after) ∧
    (∃ report after, Yields (reportMarkers "c" "t" printed) machine () after ∧ Reported [] report after) ∧
    (∃ summary after, Yields (scan cachedScan) machine summary after ∧ Reported "o" (.scan summary) after) ∧
    ∃ summary after, Yields (retry listedRetry) machine summary after ∧ Reported "-" (.scan summary) after := by
  intro machine printed
  obtain ⟨hpatterns, hranking, hmarkers, hscan, hretry⟩ := @reports_satisfy_schemas machine wellFormed_fullTree
  refine ⟨?_, ?_, ?_, ?_, ?_⟩
  · obtain ⟨hexists, hreported⟩ := hpatterns "r" 3 printed _ rfl (by decide) readRecords_full (by decide)
    obtain ⟨after, hyields⟩ := hexists rfl
    exact ⟨_, after, hyields, hreported after hyields⟩
  · obtain ⟨after, hyields⟩ := reportRanking_full
    have hlength : ∀ records, (Store.readRecords "r" : StateM Machine _).run machine = (.ok records, machine) →
        records.length < 2 ^ 63 := by
      intro records hread
      cases (Prod.mk.inj (readRecords_full.symm.trans hread)).1
      decide
    obtain ⟨_, _, hreported⟩ := hranking buggyInput printed after rfl hlength hyields
    exact ⟨_, after, hyields, hreported⟩
  · obtain ⟨after, hyields⟩ := reportMarkers_full
    obtain ⟨_, hreported⟩ := hmarkers "c" "t" printed after rfl hyields
    exact ⟨_, after, hyields, hreported⟩
  · obtain ⟨start, summary, after, hbegins, hyields, hread, hapart⟩ :=
      @exists_scanBy cachedScan .oneByOne [⟨"p", ["a"]⟩] machine _
        (fun start _ _ => start.tree.readFile "a" = .ok foundLog ∧ Apart "k" [⟨"p", ["a"]⟩] start.tree)
        (fun _ _ => yields_of_opened?) (by decide +kernel)
    exact ⟨summary, after, scanBy_oneByOne cachedScan ▸ hyields,
      hscan _ _ _ _ _ _ (surveyed_full hbegins hread hapart) (by decide) hyields⟩
  · have hlist : (Store.readFailures "f" : StateM Machine _).run machine = (.ok ["a"], machine) :=
      Prod.ext (eq_ok_of_toOption (by decide +kernel)) rfl
    obtain ⟨summary, after, hyields, -⟩ : ∃ summary after, Yields (retry listedRetry) machine summary after ∧ True :=
      exists_yields (by decide +kernel)
    exact ⟨summary, after, hyields, hretry .oneByOne listedRetry ["a"] summary after (.tail _ (.head _)) hlist
      (by simp) (by decide +kernel) (by decide) hyields⟩

/-- **A cache is believed.** Its entry for a log with a single line says that there are five lines less than none. -/
theorem summary_of_false_entry :
    let log : Text := "x\n"
    let entry : Cache.Entry := { schema := Cache.schemaVersion, lines := -5 }
    let file : Text := Cache.key "lint" "p" "a" log ++ ".mp"
    let tree : Tree :=
      { nodes := [(["a"], .file 0), (["l"], .file 1), (["k"], .directory), (["scans", "k"], .directory),
          ([file, "scans", "k"], .file 2)],
        contents := #[log, Text.unlines ["p,a"], entry.pack] }
    let plan : ScanPlan :=
      { profile := ⟨"lint", [.cast, .transmute], "lint_abp.log"⟩, corpus := .listing "l",
        results := { records := "r", failures := "f", summary := "s" }, cacheDirectory := "k" }
    tree.WellFormed ∧ plan.profile ∈ Profile.all ∧
    ∃ summary after text, Yields (scan plan) { tree } summary after ∧ after.tree.readFile plan.results.summary = .ok text ∧
      Report.validateText Report.scanSchema text ≠ .ok () := by
  intro log entry file tree plan
  let told : ScanSummary :=
    { profile := "lint", packages := 1, logs := 1, scanned := 1, cached := 1, lines := -5 }
  obtain ⟨summary, after, hscan, hread⟩ : ∃ summary after, Yields (scan plan) { tree } summary after ∧
      after.tree.readFile plan.results.summary = .ok ((Report.scan told).print ++ [Text.lf]) :=
    exists_yields (by decide +kernel)
  refine ⟨Tree.wellFormed_of_nodes (by decide +kernel) (by simp [tree]), by simp [plan, Profile.all], summary, after, _,
    hscan, hread, fun hvalid => ?_⟩
  exact absurd (Report.lines_of_validateText hvalid) (by decide)

end CastAudit.Command
