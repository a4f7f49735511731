import CastAudit.Command.Reports
import CastAudit.Command.Scan
import CastAudit.Proofs.Disk.Opening
import CastAudit.Proofs.Pattern.Frequency
import CastAudit.Proofs.Ranking.Bugs
import CastAudit.Proofs.Report.Documents
import CastAudit.Proofs.Run.Order
import CastAudit.Proofs.Scan.Fields
import Mathlib.Algebra.BigOperators.Group.List.Lemmas

/-!
# Where the values of a report come from

No report checks its own values. That they are what the schemas ask for is the work of the loaders, each of which lets
only some rows pass, and of the counts, which start from what is there.

* `Loads p P` — whatever a program loads has a property, on every machine;
* `loads_readRecords`, `loads_stars`, `loads_metadata`, `loads_discover`, `loads_countListing` — what loaders let pass;
* `sound_patterns`, `sound_ranking`, `sound_summary` — the reports that are made from it are sound.
-/

namespace CastAudit

open Disk (Machine)

/-- Whatever the program loads has the property. -/
def Loads {ε α : Type} (p : StateM Machine (Except ε α)) (P : α → Prop) : Prop :=
  ∀ machine a after, p.run machine = (.ok a, after) → P a

section Loads

variable {ε ε' α β : Type} {P : α → Prop} {Q : β → Prop}

theorem loads_any (p : StateM Machine (Except ε α)) : Loads p fun _ => True := fun _ _ _ _ => trivial

theorem loads_pure {answer : Except ε α} (h : ∀ a, answer = .ok a → P a) : Loads (pure answer) P :=
  fun _ a _ hrun => h a (Prod.mk.inj hrun).1

/-- What follows a program that loads something may count on it. -/
theorem Loads.bind {p : StateM Machine (Except ε α)} {f : Except ε α → StateM Machine (Except ε' β)} (h : Loads p P)
    (herror : ∀ e, Loads (f (.error e)) Q) (hok : ∀ a, P a → Loads (f (.ok a)) Q) : Loads (p >>= f) Q := by
  intro machine b after hrun
  rw [Machine.run_seq] at hrun
  cases hp : p.run machine with
  | mk answer between =>
    rw [hp] at hrun
    cases answer with
    | error e => exact herror e between b after hrun
    | ok a => exact hok a (h machine a between hp) between b after hrun

theorem Loads.map {p : StateM Machine (Except ε α)} {f : α → β} (h : Loads p P) (hf : ∀ a, P a → Q (f a)) :
    Loads (do return (← p).map f) Q :=
  h.bind (fun _ => loads_pure nofun) fun a ha => loads_pure fun _ heq => Except.ok.inj heq ▸ hf a ha

end Loads

theorem exists_of_mem_mapM {ε α β : Type} {f : α → Except ε β} {l : List α} {bs : List β} (h : l.mapM f = .ok bs) :
    ∀ b ∈ bs, ∃ a ∈ l, f a = .ok b := by
  have hmapped := forall₂_of_mapM h
  clear h
  induction hmapped with
  | nil => simp
  | cons hb _ ih =>
    rw [List.forall_mem_cons]
    refine ⟨⟨_, List.mem_cons_self .., hb⟩, fun b hmem => ?_⟩
    obtain ⟨a, ha, hf⟩ := ih b hmem
    exact ⟨a, List.mem_cons_of_mem _ ha, hf⟩

/-! ## patterns -/

theorem Kind.mem_recognized_of_ofTag? {tag : Text} {kind : Kind} (h : Kind.ofTag? tag = some kind) :
    kind ∈ Kind.recognized :=
  List.mem_of_find?_eq_some h

namespace Store

theorem kind_of_ofRow {path : Text} {row : Csv.Row} {r : Record} (h : ofRow path row = .ok r) :
    r.kind ∈ Kind.recognized := by
  unfold ofRow at h
  split at h
  · split at h
    · cases h
    · next kind hkind =>
      cases h
      exact Kind.mem_recognized_of_ofTag? hkind
  · cases h

theorem kind_of_recordsOf {path content : Text} {records : List Record} (h : recordsOf path content = .ok records) :
    ∀ r ∈ records, r.kind ∈ Kind.recognized := by
  unfold recordsOf at h
  cases hrows : (Csv.read { fieldCount := some fieldCount } content).rows.mapM (ofRow path) with
  | error e =>
    simp only [hrows] at h
    cases h
  | ok found =>
    simp only [hrows] at h
    cases herror : (Csv.read { fieldCount := some fieldCount } content).error with
    | some e =>
      rw [herror] at h
      cases h
    | none =>
      rw [herror] at h
      cases h
      intro r hr
      obtain ⟨row, -, hrow⟩ := exists_of_mem_mapM hrows r hr
      exact kind_of_ofRow hrow

end Store

theorem loads_readRecords (path : Text) :
    Loads (Store.readRecords path) fun records => ∀ r ∈ records, r.kind ∈ Kind.recognized :=
  (loads_any (Disk.Host.readFile path)).bind (fun _ => loads_pure nofun) fun _ _ =>
    loads_pure fun _ => Store.kind_of_recordsOf

/-- **The patterns of records of known kinds** make a sound report, cut or not. -/
theorem sound_patterns {records : List Record} (hlength : records.length < 2 ^ 63)
    (hkinds : ∀ r ∈ records, r.kind ∈ Kind.recognized) (top : Int) :
    let report := PatternReport.ofCounts (Pattern.frequency records) top
    (Report.patterns report.total (some report.patterns)).Sound := by
  intro report
  have htotal : report.total = records.length := Pattern.total_ofCounts hlength top
  have hsub : ∀ c ∈ report.patterns, c ∈ Pattern.frequency records := by
    intro c hc
    simp only [report, PatternReport.ofCounts] at hc
    split at hc
    · exact List.mem_of_mem_take hc
    · exact hc
  refine ⟨by omega, _, rfl, fun c hc => ?_⟩
  obtain ⟨hpattern, hcount⟩ := Pattern.mem_frequency (hsub c hc)
  have hpos := List.count_pos_iff.2 hpattern
  obtain ⟨r, hr, heq⟩ := List.mem_map.1 hpattern
  exact ⟨heq ▸ hkinds r hr, by omega⟩

/-! ## rankings -/

namespace Ranking

/-- No star count is below zero. -/
def NoDebt (stars : StarTable) : Prop := ∀ e ∈ stars, 0 ≤ e.2

theorem nonneg_of_starRow? {row : List Text} {e : Text × Int} (h : starRow? row = some e) : 0 ≤ e.2 := by
  unfold starRow? at h
  split at h
  · split at h
    · split at h
      · cases h
      · next hcheck =>
        cases h
        simp only [Bool.or_eq_true, decide_eq_true_eq, not_or] at hcheck
        exact Int.not_lt.1 hcheck.1
    · cases h
  · cases h

theorem noDebt_starTable (rows : List (List Text)) : NoDebt (starTable rows) := by
  have hrows : ∀ e ∈ rows.filterMap starRow?, 0 ≤ e.2 := by
    intro e he
    obtain ⟨row, -, hrow⟩ := List.mem_filterMap.1 he
    exact nonneg_of_starRow? hrow
  -- every insertion keeps what holds of the row and of the table
  have hfold : ∀ (es : List (Text × Int)) (t : StarTable), (∀ e ∈ es, 0 ≤ e.2) → NoDebt t →
      NoDebt (es.foldl (fun t e => StarTable.insert t e.1 e.2) t) := by
    intro es
    induction es with
    | nil => exact fun t _ ht => ht
    | cons e es ih =>
      intro t hes ht
      rw [List.forall_mem_cons] at hes
      refine ih _ hes.2 fun e' he' => ?_
      rcases List.mem_cons.1 he' with rfl | he'
      · exact hes.1
      · exact ht e' (List.mem_filter.1 he').1
  exact hfold _ [] hrows (by simp [NoDebt])

theorem canonicalId_of_metadataTable {rows : List (List Text)} {m : Metadata} (h : m ∈ metadataTable rows) :
    m.canonicalId ≠ [] := by
  obtain ⟨row, -, hrow⟩ := List.mem_filterMap.1 h
  unfold metadataRow? at hrow
  split at hrow
  · simp only at hrow
    split at hrow
    · cases hrow
    · next hcheck =>
      rw [← Option.some.inj hrow]
      intro hid
      simp only at hid
      simp [hid] at hcheck
  · cases hrow

theorem loads_stars (path : Text) : Loads (loadStars path) NoDebt :=
  (loads_any (readRows path)).map fun rows _ => noDebt_starTable rows

theorem loads_metadata (path : Text) : Loads (loadMetadata path) fun rows => ∀ m ∈ rows, m.canonicalId ≠ [] :=
  (loads_any (readRows path)).map fun _ _ _ hm => canonicalId_of_metadataTable hm

variable {records : Option (List Record)} {stars : StarTable} {rows : List Metadata}

theorem one_le_rank {packages : List RankedPackage} {p : RankedPackage} (h : p ∈ numbered packages) : 1 ≤ p.rank := by
  obtain ⟨i, hi⟩ := List.mem_iff_getElem?.1 h
  rw [getElem?_numbered, Option.map_eq_some_iff] at hi
  obtain ⟨q, -, rfl⟩ := hi
  simp only
  omega

/-- Every ranked package has a rank, an id and counts that are not below zero. -/
theorem soundRank_rank (hrecords : ∀ rs ∈ records, rs.length < 2 ^ 63) (hstars : NoDebt stars)
    (hrows : ∀ m ∈ rows, m.canonicalId ≠ []) :
    ∀ p ∈ rank (records.map findingCounts) stars rows, Report.SoundRank p := by
  intro p hp
  obtain ⟨row, hfirst, hrow⟩ := (isRanking_rank hrecords stars rows).taken p hp
  refine ⟨one_le_rank hp, ?_, ?_, ?_⟩
  · rw [hrow.canonicalId]
    exact hrows row (firstRow?_eq_some hfirst).1
  · obtain ⟨before, behind, rfl, -⟩ := List.lookup_eq_some_iff.1 hrow.stars
    exact hstars (row.packageName, p.stars) (by simp)
  · rw [hrow.findings]
    cases records with
    | none => exact Int.le_refl 0
    | some rs => exact Int.natCast_nonneg _

theorem soundRank_buggy {rs : List Record} (hrs : rs.length < 2 ^ 63) {ranked : List RankedPackage}
    (h : ∀ p ∈ ranked, Report.SoundRank p) : ∀ p ∈ buggy ranked rs, Report.SoundRank p := by
  intro p hp
  rw [buggy_eq hrs] at hp
  obtain ⟨q, hq, heq⟩ := mem_numbered hp
  obtain ⟨p', hp', -, rfl⟩ := mem_selected_iff.1 hq
  obtain ⟨-, hid, hstars, -⟩ := h p' hp'
  refine ⟨one_le_rank hp, ?_, ?_, ?_⟩ <;> rw [heq]
  · exact hid
  · exact hstars
  · exact Int.natCast_nonneg _

/-- **Ranked packages and their popularity** make a sound report, if the packages break no rule. -/
theorem sound_ranking {ranked : List RankedPackage} {packages : List Package}
    (h : ∀ p ∈ ranked, Report.SoundRank p) (hpackages : popularityEntries ranked = .ok packages) :
    (Report.ranking (some ranked) packages).Sound := by
  refine ⟨⟨_, rfl, h⟩, fun q hq => ?_⟩
  obtain ⟨p, hp, hentry⟩ := exists_of_mem_mapM hpackages q hq
  obtain ⟨-, hid, hstars, -⟩ := h p hp
  split at hentry
  · cases hentry
    exact ⟨hid, fun n hn => Option.mem_some.1 hn ▸ hstars⟩
  · cases hentry

end Ranking

/-! ## marked lines -/

theorem Package.ofId_nil_breaks : (Package.ofId []).brokenRules ≠ [] := by decide

theorem packageId_of_ofDirectory {root logName : Text} {names : List Disk.DirectoryEntry} {listing : Listing}
    (h : Listing.ofDirectory root logName names = .ok listing) : ∀ e ∈ listing, e.packageId ≠ [] := by
  intro e he
  obtain ⟨d, -, hentry⟩ := exists_of_mem_mapM h e he
  simp only at hentry
  split at hentry
  · next hrules =>
    rintro hid
    rw [← Except.ok.inj hentry] at hid
    rw [ListingEntry.package, hid] at hrules
    exact Package.ofId_nil_breaks hrules
  · cases hentry

theorem loads_discover (root logName : Text) :
    Loads (Listing.discover root logName) fun listing => ∀ e ∈ listing, e.packageId ≠ [] :=
  (loads_any (Disk.Host.listDirectory root)).bind (fun _ => loads_pure nofun) fun _ _ =>
    loads_pure fun _ => packageId_of_ofDirectory

namespace Markers

theorem total_nonneg {counts : List Int} (h : ∀ n ∈ counts, 0 ≤ n) : 0 ≤ total counts := by
  induction counts with
  | nil => exact Int.le_refl 0
  | cons n counts ih =>
    rw [List.forall_mem_cons] at h
    exact Int.add_nonneg h.1 (ih h.2)

theorem loads_countFile (path : Text) :
    Loads (countFile path) fun found => ∀ c ∈ found, 0 ≤ c.cast ∧ 0 ≤ c.transmute := by
  refine (loads_any (Disk.Host.readFile path)).bind (fun e => ?_) fun content _ => ?_
  · simp only
    split
    · exact loads_pure fun _ heq => Except.ok.inj heq ▸ by simp
    · split <;> exact loads_pure nofun
  · simp only
    split
    · next n hcount =>
      have hn : (count content).1 = n := congrArg Prod.fst hcount
      refine loads_pure fun _ heq => Except.ok.inj heq ▸ ?_
      rintro c ⟨⟩
      rw [← hn]
      exact ⟨Int.natCast_nonneg _, Int.natCast_nonneg _⟩
    · exact loads_pure nofun

theorem loads_countFiles (paths : List Text) :
    Loads (countFiles paths) fun counts => ∀ c ∈ counts, 0 ≤ c.cast ∧ 0 ≤ c.transmute := by
  induction paths with
  | nil => exact loads_pure fun _ heq => Except.ok.inj heq ▸ by simp
  | cons path paths ih =>
    refine (loads_countFile path).bind (fun _ => loads_pure nofun) fun found hfound => ?_
    refine ih.bind (fun _ => loads_pure nofun) fun rest hrest => loads_pure fun _ heq => Except.ok.inj heq ▸ ?_
    exact List.forall_mem_append.2 ⟨fun c hc => hfound c (Option.mem_toList.1 hc), hrest⟩

theorem loads_countPackages {listing : Listing} (h : ∀ e ∈ listing, e.packageId ≠ []) :
    Loads (countPackages listing) fun packages =>
      ∀ p, some p ∈ packages → p.packageId ≠ [] ∧ 0 ≤ p.cast ∧ 0 ≤ p.transmute := by
  induction listing with
  | nil => exact loads_pure fun _ heq => Except.ok.inj heq ▸ by simp
  | cons entry listing ih =>
    rw [List.forall_mem_cons] at h
    refine (loads_countFiles entry.logPaths).bind (fun _ => loads_pure nofun) fun counts hcounts => ?_
    refine (ih h.2).bind (fun _ => loads_pure nofun) fun rest hrest => loads_pure fun _ heq => Except.ok.inj heq ▸ ?_
    intro p hp
    rcases List.mem_cons.1 hp with hhere | hp
    · split at hhere
      · cases hhere
      · cases hhere
        exact ⟨h.1, total_nonneg (List.forall_mem_map.2 fun c hc => (hcounts c hc).1),
          total_nonneg (List.forall_mem_map.2 fun c hc => (hcounts c hc).2)⟩
    · exact hrest p hp

/-- **The marked lines of packages with ids** make a sound report. -/
theorem loads_countListing {listing : Listing} (h : ∀ e ∈ listing, e.packageId ≠ []) :
    Loads (countListing listing) fun s =>
      (Report.markers (some s.packages) s.castTotal s.transmuteTotal s.missing).Sound := by
  refine (loads_countPackages h).map fun packages hpackages => ?_
  have hfound : ∀ p ∈ packages.filterMap id, p.packageId ≠ [] ∧ 0 ≤ p.cast ∧ 0 ≤ p.transmute := by
    intro p hp
    obtain ⟨p', hp', rfl⟩ := List.mem_filterMap.1 hp
    exact hpackages p hp'
  exact ⟨⟨_, rfl, hfound⟩, total_nonneg (List.forall_mem_map.2 fun p hp => (hfound p hp).2.1),
    total_nonneg (List.forall_mem_map.2 fun p hp => (hfound p hp).2.2), Int.natCast_nonneg _⟩

end Markers

/-! ## summaries -/

/-- A summary with counts that are not below zero is sound. -/
theorem Command.sound_summary {profile : Profile} (hprofile : profile ∈ Profile.all) {result : RunResult}
    (hlines : 0 ≤ result.lines) (hheaders : 0 ≤ result.headers) (logs : Nat) :
    (Report.scan (summaryOf profile logs result)).Sound := by
  refine ⟨List.mem_map_of_mem hprofile, rfl, ?_⟩
  simp only [Report.countsOf, summaryOf, List.forall_mem_cons]
  simp [hlines, hheaders]

end CastAudit
