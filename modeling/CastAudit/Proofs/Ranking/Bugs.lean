import CastAudit.Proofs.Ranking.Join

/-!
# Rankings of packages with bugs

* `IsRanking.selected` — the packages with bug reports of a ranking make the ranking that the bug reports alone ask for;
* `buggy_rank` — so it does not matter whether bugs are selected before or after ranking.

Rows with one versioned id have to agree on the plain one. Otherwise the first row of an id may have findings and a later
one with the same id all the bugs.
-/

namespace CastAudit.Ranking

theorem versioned_injective {name v v' : Text} (h : versioned name v = versioned name v') : v = v' := by
  unfold versioned at h
  split at h <;> split at h
  · simp_all
  · simpa using congrArg List.length h
  · simpa using congrArg List.length h
  · simpa using h

/-- Rows with one versioned id have one plain id. -/
def Unambiguous (rows : List Metadata) : Prop :=
  ∀ a ∈ rows, ∀ b ∈ rows, a.id = b.id → a.canonicalId = b.canonicalId

section

variable {records : Option (List Record)} {stars : StarTable} {rows : List Metadata} {row : Metadata}

theorem Unambiguous.version_eq (h : Unambiguous rows) {a b : Metadata} (ha : a ∈ rows) (hb : b ∈ rows)
    (hid : a.id = b.id) : a.version = b.version := by
  have hname := h a ha b hb hid
  rw [Metadata.id, Metadata.id, hname] at hid
  exact versioned_injective hid

theorem firstRow?_congr {records' : Option (List Record)} {id : Text}
    (h : ∀ row ∈ rows, row.id = id → eligible records stars row = eligible records' stars row) :
    firstRow? records stars rows id = firstRow? records' stars rows id := by
  unfold firstRow?
  induction rows with
  | nil => rfl
  | cons row rows ih =>
    rw [List.forall_mem_cons] at h
    have hsame : (eligible records stars row && row.id == id) = (eligible records' stars row && row.id == id) := by
      by_cases hid : row.id = id
      · rw [h.1 hid]
      · rw [beq_false_of_ne hid, Bool.and_false, Bool.and_false]
    rw [List.find?_cons, List.find?_cons, hsame, ih h.2]

/-- A package with bugs counts for its bugs exactly if it counts for more records. -/
theorem eligible_bugs {bugs : List Record} (hmore : ∀ rs ∈ records, ∀ r ∈ bugs, r ∈ rs)
    (hbugs : recordsOf bugs row.canonicalId row.version ≠ []) :
    eligible (some bugs) stars row = eligible records stars row := by
  have hall : (records.all fun rs => !(recordsOf rs row.canonicalId row.version).isEmpty) = true := by
    rw [Option.all_eq_true]
    intro rs hrs
    obtain ⟨r, hr⟩ := List.exists_mem_of_ne_nil _ hbugs
    rw [recordsOf, List.mem_filter] at hr
    simp only [Bool.not_eq_true', List.isEmpty_eq_false_iff]
    exact List.ne_nil_of_mem (List.mem_filter.2 ⟨hmore rs hrs r hr.1, hr.2⟩)
  rw [eligible, eligible, hall, Option.all_some]
  simp [hbugs]

/-- The packages of a ranking that have records among some, with the number of those. -/
def selected (records : List Record) (ranked : List RankedPackage) : List RankedPackage :=
  (ranked.map fun p => { p with findings := ((recordsOf records p.canonicalId p.version).length : Int) }).filter
    fun p => p.findings ≠ 0

theorem buggy_eq {rs : List Record} (hrs : rs.length < 2 ^ 63) (ranked : List RankedPackage) :
    buggy ranked rs = numbered (selected (rs.filter fun r => r.kind.isBug) ranked) := by
  have hlength : (rs.filter fun r => r.kind.isBug).length < 2 ^ 63 :=
    Nat.lt_of_le_of_lt (List.length_filter_le ..) hrs
  simp only [buggy, selected, findingsOf_findingCounts hlength]

theorem mem_selected_iff {bugs : List Record} {ranked : List RankedPackage} {q : RankedPackage} :
    q ∈ selected bugs ranked ↔ ∃ p ∈ ranked, recordsOf bugs p.canonicalId p.version ≠ [] ∧
      q = { p with findings := ((recordsOf bugs p.canonicalId p.version).length : Int) } := by
  rw [selected, List.mem_filter, List.mem_map]
  constructor
  · rintro ⟨⟨p, hp, rfl⟩, hq⟩
    exact ⟨p, hp, by simpa using hq, rfl⟩
  · rintro ⟨p, hp, hbugs, rfl⟩
    exact ⟨⟨p, hp, rfl⟩, by simpa using hbugs⟩

/-- A package of a ranking that has bugs comes from the row that counts for the bugs. -/
theorem IsRanking.taken_bugs {bugs : List Record} {ranked : List RankedPackage} (hrows : Unambiguous rows)
    (hmore : ∀ rs ∈ records, ∀ r ∈ bugs, r ∈ rs) (h : IsRanking records stars rows ranked) {p : RankedPackage}
    (hp : p ∈ ranked) (hbugs : recordsOf bugs p.canonicalId p.version ≠ []) :
    ∃ row, firstRow? (some bugs) stars rows p.id = some row ∧ p.canonicalId = row.canonicalId ∧
      p.version = row.version ∧ stars.lookup row.packageName = some p.stars := by
  obtain ⟨row, hfirst, hof⟩ := h.taken p hp
  obtain ⟨hmem, -, hid⟩ := firstRow?_eq_some hfirst
  refine ⟨row, ?_, hof.canonicalId, hof.version, hof.stars⟩
  rw [← hfirst]
  refine firstRow?_congr fun other hother hotherId => eligible_bugs hmore ?_
  have hsame : other.id = row.id := hotherId.trans hid.symm
  rwa [hrows other hother row hmem hsame, hrows.version_eq hother hmem hsame, ← hof.canonicalId, ← hof.version]

/-- **The packages with bugs of a ranking make the ranking of the bugs.** -/
theorem IsRanking.selected {bugs : List Record} {ranked : List RankedPackage} (hrows : Unambiguous rows)
    (hmore : ∀ rs ∈ records, ∀ r ∈ bugs, r ∈ rs) (h : IsRanking records stars rows ranked) :
    IsRanking (some bugs) stars rows (numbered (selected bugs ranked)) := by
  apply isRanking_numbered
  case hsorted =>
    refine List.Pairwise.filter _ ?_
    rw [List.pairwise_map]
    exact h.sorted
  case hdistinct =>
    have hids : (ranked.map fun p =>
        { p with findings := ((recordsOf bugs p.canonicalId p.version).length : Int) }).map RankedPackage.id =
        ranked.map RankedPackage.id := by
      rw [List.map_map]
      rfl
    exact (List.filter_sublist.map _).nodup (hids ▸ h.distinct)
  case hmem =>
    intro id
    rw [List.mem_map]
    constructor
    · rintro ⟨_, hq, rfl⟩
      obtain ⟨p, hp, hbugs, rfl⟩ := mem_selected_iff.1 hq
      obtain ⟨row, hfirst, -⟩ := h.taken_bugs hrows hmore hp hbugs
      exact ⟨row, firstRow?_eq_some hfirst⟩
    · rintro ⟨row, hrow, heligible, rfl⟩
      have hbugs : recordsOf bugs row.canonicalId row.version ≠ [] := by
        rw [eligible, Bool.and_eq_true] at heligible
        simpa using heligible.2
      -- with all records the row is eligible too, but another one with its id may be the first
      rw [eligible_bugs hmore hbugs] at heligible
      obtain ⟨p, hp, hid⟩ := List.mem_map.1 ((h.listed row.id).2 ⟨row, hrow, heligible, rfl⟩)
      obtain ⟨first, hfirst, hof⟩ := h.taken p hp
      obtain ⟨hmem, -, hfirstId⟩ := firstRow?_eq_some hfirst
      have hsame : first.id = row.id := hfirstId.trans hid
      refine ⟨_, mem_selected_iff.2 ⟨p, hp, ?_, rfl⟩, hid⟩
      rwa [hof.canonicalId, hof.version, hrows first hmem row hrow hsame, hrows.version_eq hmem hrow hsame]
  case htaken =>
    intro q hq
    obtain ⟨p, hp, hbugs, rfl⟩ := mem_selected_iff.1 hq
    obtain ⟨row, hfirst, hid, hversion, hstars⟩ := h.taken_bugs hrows hmore hp hbugs
    exact ⟨row, hfirst, hid, hversion, hstars, by rw [← hid, ← hversion]; rfl⟩

end

/-- **Bugs may be selected before or after ranking.** The packages with bug reports of a ranking, of all packages or of
those with findings, are the ranking of the bug reports alone, with its ranks and its numbers of findings. -/
theorem buggy_rank {rs : List Record} (hrs : rs.length < 2 ^ 63) (stars : StarTable) {rows : List Metadata}
    (hrows : Unambiguous rows) :
    buggy (rank (some (findingCounts rs)) stars rows) rs =
        rank (some (findingCounts (rs.filter fun r => r.kind.isBug))) stars rows ∧
      buggy (rank none stars rows) rs =
        rank (some (findingCounts (rs.filter fun r => r.kind.isBug))) stars rows := by
  have hlength : ∀ rs' ∈ some (rs.filter fun r => r.kind.isBug), rs'.length < 2 ^ 63 := by
    rintro _ ⟨⟩
    exact Nat.lt_of_le_of_lt (List.length_filter_le ..) hrs
  have hbugs := isRanking_rank hlength stars rows
  have hall : IsRanking none stars rows (rank none stars rows) := isRanking_rank (by simp) stars rows
  have hsome : IsRanking (some rs) stars rows (rank (some (findingCounts rs)) stars rows) :=
    isRanking_rank (by simpa using hrs) stars rows
  rw [buggy_eq hrs, buggy_eq hrs]
  constructor
  · refine (hsome.selected hrows ?_).unique hbugs
    rintro _ ⟨⟩ r hr
    exact (List.mem_filter.1 hr).1
  · exact (hall.selected hrows (by simp)).unique hbugs

/-- Two rows of one id, of which the first has no stars, and a package with findings but no bug. -/
theorem buggy_rank_repeated :
    let records : List Record :=
      [{ packageId := "b", kind := .cast }, { packageId := "a", kind := .brokenLayout },
       { packageId := "a-1", kind := .transmute }, { packageId := "a-1", kind := .uninitExposure }]
    let rows : List Metadata := [⟨"a", "1", "z"⟩, ⟨"b", [], "x"⟩, ⟨"a", "1", "x"⟩, ⟨"a", "1", "y"⟩]
    rank (some (findingCounts (records.filter fun r => r.kind.isBug))) [("x", 5), ("y", 9)] rows =
        [⟨1, "a", "1", 5, 2⟩] ∧
      buggy (rank (some (findingCounts records)) [("x", 5), ("y", 9)] rows) records = [⟨1, "a", "1", 5, 2⟩] ∧
      buggy (rank none [("x", 5), ("y", 9)] rows) records = [⟨1, "a", "1", 5, 2⟩] := by
  intro records rows
  have hchosen : firstById (rows.filterMap
      (join? (some (findingCounts (records.filter fun r => r.kind.isBug))) [("x", 5), ("y", 9)])) =
      [⟨0, "a", "1", 5, 2⟩] := by decide +kernel
  have hrank : rank (some (findingCounts (records.filter fun r => r.kind.isBug))) [("x", 5), ("y", 9)] rows =
      [⟨1, "a", "1", 5, 2⟩] := by
    rw [rank, hchosen, List.mergeSort_singleton]
    rfl
  have hrows : Unambiguous rows := by
    unfold Unambiguous
    decide +kernel
  have hlength : records.length < 2 ^ 63 := by simp [records]
  obtain ⟨hsome, hall⟩ := buggy_rank hlength [("x", 5), ("y", 9)] hrows
  exact ⟨hrank, hsome.trans hrank, hall.trans hrank⟩

end CastAudit.Ranking
