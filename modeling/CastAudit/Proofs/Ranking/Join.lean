import CastAudit.Ranking
import CastAudit.Proofs.Text.Distinct
import Mathlib.Data.List.Nodup

/-!
# What a ranking is

A ranking is made in four steps: the join with the stars, the choice of one package for each id, the sort and the
numbering. Here it is told without them.

* `eligible` — the rows that may be ranked;
* `IsRanking` — one package for each id of an eligible row, taken from the first such row, in strict order and numbered;
* `isRanking_rank` — `rank` gives a ranking;
* `IsRanking.unique` — there is no other one.
-/

namespace CastAudit.Ranking

/-- The id that a row has in a ranking. -/
def Metadata.id (row : Metadata) : Text := versioned row.canonicalId row.version

/-- The records of a package, which name its plain or its versioned id. -/
def recordsOf (records : List Record) (canonicalId version : Text) : List Record :=
  records.filter fun r => r.packageId == canonicalId || r.packageId == versioned canonicalId version

/-- A row may be ranked: its repository has stars, and where records are given, one is of its package. -/
def eligible (records : Option (List Record)) (stars : StarTable) (row : Metadata) : Bool :=
  (stars.lookup row.packageName).isSome &&
    records.all fun rs => !(recordsOf rs row.canonicalId row.version).isEmpty

/-- The first row of an id that may be ranked. -/
def firstRow? (records : Option (List Record)) (stars : StarTable) (rows : List Metadata) (id : Text) :
    Option Metadata :=
  rows.find? fun row => eligible records stars row && row.id == id

/-- More stars come first, and of equally many the smaller id. -/
def Precedes (a b : RankedPackage) : Prop := b.stars < a.stars ∨ a.stars = b.stars ∧ a.id < b.id

/-- A package has, rank apart, what a row tells. -/
structure IsOfRow (records : Option (List Record)) (stars : StarTable) (row : Metadata) (p : RankedPackage) : Prop where
  canonicalId : p.canonicalId = row.canonicalId
  version : p.version = row.version
  stars : stars.lookup row.packageName = some p.stars
  findings : p.findings = records.elim 0 fun rs => ((recordsOf rs row.canonicalId row.version).length : Int)

/-- The ranking of metadata rows, with the records that decide which of them count. -/
structure IsRanking (records : Option (List Record)) (stars : StarTable) (rows : List Metadata)
    (ranked : List RankedPackage) : Prop where
  sorted : ranked.Pairwise Precedes
  ranks : ∀ (i : Nat) (p : RankedPackage), ranked[i]? = some p → p.rank = (i : Int) + 1
  distinct : (ranked.map RankedPackage.id).Nodup
  listed : ∀ id, id ∈ ranked.map RankedPackage.id ↔ ∃ row ∈ rows, eligible records stars row = true ∧ row.id = id
  taken : ∀ p ∈ ranked, ∃ row, firstRow? records stars rows p.id = some row ∧ IsOfRow records stars row p

variable {records : Option (List Record)} {stars : StarTable} {rows : List Metadata} {row : Metadata}

/-! ## findings -/

theorem lookup_findingCounts (rs : List Record) (id : Text) :
    Findings.at (findingCounts rs) id = ((rs.filter fun r => r.packageId == id).length : Int) := by
  have hcount : (rs.map Record.packageId).count id = (rs.filter fun r => r.packageId == id).length := by
    rw [List.count_eq_countP, List.countP_map, List.countP_eq_length_filter]
    rfl
  rw [Findings.at, findingCounts]
  by_cases hid : id ∈ rs.map Record.packageId
  · rw [List.lookup_graph (fun id => ((rs.map Record.packageId).count id : Int)) (List.mem_eraseDups.2 hid), hcount]
    rfl
  · have hnone : ((rs.map Record.packageId).eraseDups.map fun id => (id, ((rs.map Record.packageId).count id : Int))).lookup
        id = none := by
      rw [List.lookup_eq_none_iff]
      intro p hp
      obtain ⟨id', hid', rfl⟩ := List.mem_map.1 hp
      simpa using (ne_of_mem_of_not_mem (List.mem_eraseDups.1 hid') hid).symm
    rw [hnone, ← hcount, List.count_eq_zero_of_not_mem hid]
    rfl

theorem versioned_ne {name version : Text} (h : version.isEmpty = false) : versioned name version ≠ name := by
  intro heq
  have := congrArg List.length heq
  simp [versioned, h] at this

/-- No record is counted under both ids. -/
theorem length_recordsOf {rs : List Record} {canonicalId version : Text} (h : version.isEmpty = false) :
    (recordsOf rs canonicalId version).length =
      (rs.filter fun r => r.packageId == versioned canonicalId version).length +
        (rs.filter fun r => r.packageId == canonicalId).length := by
  have hne : versioned canonicalId version ≠ canonicalId := versioned_ne h
  unfold recordsOf
  induction rs with
  | nil => rfl
  | cons r rs ih =>
    rw [List.filter_cons, List.filter_cons, List.filter_cons]
    by_cases hplain : r.packageId = canonicalId
    · have hother : (r.packageId == versioned canonicalId version) = false := by
        simpa [hplain] using hne.symm
      simp only [hplain, beq_self_eq_true, Bool.true_or, if_true, List.length_cons, ih] at hother ⊢
      simp only [hother, Bool.false_eq_true, if_false]
      omega
    · have hother : (r.packageId == canonicalId) = false := by simpa using hplain
      simp only [hother, Bool.false_or, Bool.false_eq_true, if_false]
      split
      · simp only [List.length_cons, ih]
        omega
      · exact ih

/-- The findings of a package are its records: a list in memory is too short for their number to wrap. -/
theorem findingsOf_findingCounts {rs : List Record} (hrs : rs.length < 2 ^ 63) (canonicalId version : Text) :
    findingsOf (findingCounts rs) canonicalId version = ((recordsOf rs canonicalId version).length : Int) := by
  have hle : (recordsOf rs canonicalId version).length ≤ rs.length := List.length_filter_le ..
  cases hversion : version.isEmpty with
  | true =>
    have hempty : version = [] := by simpa using hversion
    rw [findingsOf, hversion, if_pos rfl, lookup_findingCounts, recordsOf, hempty]
    simp [versioned]
  | false =>
    rw [length_recordsOf hversion] at hle ⊢
    rw [findingsOf, hversion, if_neg nofun, lookup_findingCounts, lookup_findingCounts, Text.wrap64,
      Int.bmod_eq_of_le (by omega) (by omega)]
    rfl

/-! ## the join -/

theorem join?_eq_some_iff {p : RankedPackage} (hrecords : ∀ rs ∈ records, rs.length < 2 ^ 63) :
    join? (records.map findingCounts) stars row = some p ↔
      eligible records stars row = true ∧ p.rank = 0 ∧ IsOfRow records stars row p := by
  unfold join? eligible
  cases hstars : stars.lookup row.packageName with
  | none => simp
  | some count =>
    -- without a list of records every package with stars is in
    cases records with
    | none =>
      simp only [Option.map_none, Option.bind_eq_bind, Option.bind_some, Option.some.injEq, Option.isSome_some,
        Option.all_none, Bool.and_self, true_and]
      constructor
      · rintro rfl
        exact ⟨rfl, rfl, rfl, hstars, rfl⟩
      · rintro ⟨hrank, hid, hversion, hcount, hfindings⟩
        rw [hstars, Option.some.injEq] at hcount
        cases p
        simp_all
    | some rs =>
      simp only [Option.map_some, Option.bind_eq_bind, Option.bind_some, Option.isSome_some, Option.all_some,
        Bool.true_and, findingsOf_findingCounts (hrecords rs rfl)]
      split
      · next hnone =>
        simp_all
      · next hsome =>
        rw [Option.some.injEq]
        constructor
        · rintro rfl
          exact ⟨by simpa using hsome, rfl, rfl, rfl, hstars, rfl⟩
        · rintro ⟨-, hrank, hid, hversion, hcount, hfindings⟩
          rw [hstars, Option.some.injEq] at hcount
          cases p
          simp_all

theorem IsOfRow.id_eq {p : RankedPackage} (h : IsOfRow records stars row p) : p.id = row.id := by
  rw [RankedPackage.id, h.canonicalId, h.version]
  rfl

theorem IsOfRow.unique {p q : RankedPackage} (hp : IsOfRow records stars row p) (hq : IsOfRow records stars row q)
    (hrank : p.rank = q.rank) : p = q := by
  have hstars : p.stars = q.stars := Option.some.inj (hp.stars.symm.trans hq.stars)
  obtain ⟨hid, hversion, -, hfindings⟩ := hp
  obtain ⟨hid', hversion', -, hfindings'⟩ := hq
  cases p
  cases q
  simp_all

theorem exists_isOfRow (h : eligible records stars row = true) : ∃ p, p.rank = 0 ∧ IsOfRow records stars row p := by
  rw [eligible, Bool.and_eq_true, Option.isSome_iff_exists] at h
  obtain ⟨⟨count, hcount⟩, -⟩ := h
  exact ⟨⟨0, _, _, count, _⟩, rfl, rfl, rfl, hcount, rfl⟩

/-- Rows that may be ranked are joined, and no other ones. -/
theorem any_join? (hrecords : ∀ rs ∈ records, rs.length < 2 ^ 63) (row : Metadata) (id : Text) :
    (join? (records.map findingCounts) stars row).any (fun p => p.id == id) =
      (eligible records stars row && row.id == id) := by
  cases hjoin : join? (records.map findingCounts) stars row with
  | some p =>
    obtain ⟨heligible, -, hrow⟩ := (join?_eq_some_iff hrecords).1 hjoin
    simp [heligible, hrow.id_eq]
  | none =>
    have hnot : eligible records stars row = false := by
      rw [← Bool.not_eq_true]
      intro heligible
      obtain ⟨p, hp⟩ := exists_isOfRow heligible
      rw [(join?_eq_some_iff hrecords).2 ⟨heligible, hp⟩] at hjoin
      cases hjoin
    simp [hnot]

/-! ## one package for each id -/

theorem mem_firstById {packages : List RankedPackage} {p : RankedPackage} :
    p ∈ firstById packages ↔ packages.find? (fun q => q.id == p.id) = some p := mem_eraseDupsBy_key

theorem nodup_firstById (packages : List RankedPackage) : ((firstById packages).map RankedPackage.id).Nodup :=
  nodup_map_eraseDupsBy_key packages

/-! ## the order -/

theorem before_iff {a b : RankedPackage} : before a b = true ↔ Precedes a b := by
  rw [before, Precedes]
  by_cases h : a.stars = b.stars
  · simp [h, Text.before]
  · simp [h]

theorem not_before_iff {a b : RankedPackage} :
    (!before b a) = true ↔ b.stars < a.stars ∨ a.stars = b.stars ∧ a.id ≤ b.id := by
  rw [Bool.not_eq_true', ← Bool.not_eq_true, before_iff, Precedes, not_or, not_and, List.not_lt]
  constructor
  · rintro ⟨hstars, hid⟩
    rcases Int.lt_or_eq_of_le (Int.not_lt.1 hstars) with hlt | heq
    · exact .inl hlt
    · exact .inr ⟨heq.symm, hid heq⟩
  · rintro (hlt | ⟨heq, hid⟩)
    · exact ⟨by omega, by omega⟩
    · exact ⟨by omega, fun _ => hid⟩

theorem not_precedes_of_precedes {a b : RankedPackage} (h : Precedes a b) : ¬Precedes b a := by
  rintro (h' | ⟨heq', h'⟩) <;> rcases h with h | ⟨heq, h⟩
  · omega
  · omega
  · omega
  · exact List.lt_irrefl _ (List.lt_trans h h')

/-- Packages with different ids are sorted strictly. -/
theorem pairwise_sort {packages : List RankedPackage} (hdistinct : (packages.map RankedPackage.id).Nodup) :
    (packages.mergeSort fun a b => !before b a).Pairwise Precedes := by
  have hsorted := @List.pairwise_mergeSort _ (fun a b : RankedPackage => !before b a)
    (fun a b c hab hbc => by
      rw [not_before_iff] at hab hbc ⊢
      rcases hab with hab | ⟨hab, hid⟩ <;> rcases hbc with hbc | ⟨hbc, hid'⟩
      · exact .inl (by omega)
      · exact .inl (by omega)
      · exact .inl (by omega)
      · exact .inr ⟨by omega, List.le_trans hid hid'⟩)
    (fun a b => by
      rw [Bool.or_eq_true, not_before_iff, not_before_iff]
      rcases Int.lt_trichotomy a.stars b.stars with hlt | heq | hlt
      · exact .inr (.inl hlt)
      · exact (List.le_total a.id b.id).imp (fun h => .inr ⟨heq, h⟩) fun h => .inr ⟨heq.symm, h⟩
      · exact .inl (.inl hlt)) packages
  have hids : (packages.mergeSort fun a b => !before b a).Pairwise fun a b => a.id ≠ b.id :=
    List.pairwise_map.1 (((List.mergeSort_perm ..).map _).nodup_iff.2 hdistinct)
  refine (hsorted.and hids).imp fun {a b} ⟨hle, hne⟩ => ?_
  rcases not_before_iff.1 hle with hlt | ⟨heq, hid⟩
  · exact .inl hlt
  · refine .inr ⟨heq, ?_⟩
    by_contra hnot
    exact hne (List.le_antisymm hid (List.not_lt.1 hnot))

/-! ## numbers -/

theorem getElem?_numbered (packages : List RankedPackage) (i : Nat) :
    (numbered packages)[i]? = packages[i]?.map fun p => { p with rank := (i : Int) + 1 } := by
  simp only [numbered, List.getElem?_map, List.getElem?_zipIdx, Option.map_map]
  congr 1
  funext p
  simp [Int.add_comm]

theorem mem_numbered {packages : List RankedPackage} {p : RankedPackage} (h : p ∈ numbered packages) :
    ∃ q ∈ packages, p = { q with rank := p.rank } := by
  obtain ⟨i, hi⟩ := List.mem_iff_getElem?.1 h
  rw [getElem?_numbered, Option.map_eq_some_iff] at hi
  obtain ⟨q, hq, rfl⟩ := hi
  exact ⟨q, List.mem_of_getElem? hq, rfl⟩

theorem map_numbered {α : Type} {f : RankedPackage → α} (hf : ∀ p n, f { p with rank := n } = f p)
    (packages : List RankedPackage) : (numbered packages).map f = packages.map f := by
  refine List.ext_getElem? fun i => ?_
  rw [List.getElem?_map, List.getElem?_map, getElem?_numbered, Option.map_map]
  congr 1
  funext p
  exact hf p _

theorem pairwise_numbered {packages : List RankedPackage} (h : packages.Pairwise Precedes) :
    (numbered packages).Pairwise Precedes := by
  have hkey (l : List RankedPackage) : l.Pairwise Precedes ↔
      (l.map fun p => (p.stars, p.id)).Pairwise fun a b => b.1 < a.1 ∨ a.1 = b.1 ∧ a.2 < b.2 := by
    rw [List.pairwise_map]
    rfl
  rw [hkey, map_numbered (fun _ _ => rfl), ← hkey]
  exact h

/-! ## rankings -/

theorem firstRow?_eq_some {id : Text} (h : firstRow? records stars rows id = some row) :
    row ∈ rows ∧ eligible records stars row = true ∧ row.id = id := by
  have hrow := List.find?_some h
  rw [Bool.and_eq_true, beq_iff_eq] at hrow
  exact ⟨List.mem_of_find?_eq_some h, hrow⟩

theorem exists_firstRow? {id : Text} (hrow : row ∈ rows) (heligible : eligible records stars row = true)
    (hid : row.id = id) : ∃ first, firstRow? records stars rows id = some first := by
  rw [← Option.isSome_iff_exists, firstRow?, List.find?_isSome]
  exact ⟨row, hrow, by simp [heligible, hid]⟩

/-- The packages that are chosen before the sort. -/
theorem mem_chosen_iff (hrecords : ∀ rs ∈ records, rs.length < 2 ^ 63) {p : RankedPackage} :
    p ∈ firstById (rows.filterMap (join? (records.map findingCounts) stars)) ↔
      p.rank = 0 ∧ ∃ row, firstRow? records stars rows p.id = some row ∧ IsOfRow records stars row p := by
  rw [mem_firstById, List.find?_filterMap]
  simp only [any_join? hrecords]
  rw [Option.bind_eq_some_iff]
  constructor
  · rintro ⟨row, hfirst, hjoin⟩
    obtain ⟨-, hrank, hrow⟩ := (join?_eq_some_iff hrecords).1 hjoin
    exact ⟨hrank, row, hfirst, hrow⟩
  · rintro ⟨hrank, row, hfirst, hrow⟩
    exact ⟨row, hfirst, (join?_eq_some_iff hrecords).2 ⟨(firstRow?_eq_some hfirst).2.1, hrank, hrow⟩⟩

/-- Packages in strict order that are numbered make a ranking if they are those of the first rows that count. -/
theorem isRanking_numbered {packages : List RankedPackage} (hsorted : packages.Pairwise Precedes)
    (hdistinct : (packages.map RankedPackage.id).Nodup)
    (hmem : ∀ id, id ∈ packages.map RankedPackage.id ↔ ∃ row ∈ rows, eligible records stars row = true ∧ row.id = id)
    (htaken : ∀ p ∈ packages, ∃ row, firstRow? records stars rows p.id = some row ∧ IsOfRow records stars row p) :
    IsRanking records stars rows (numbered packages) := by
  have hids : (numbered packages).map RankedPackage.id = packages.map RankedPackage.id :=
    map_numbered (fun _ _ => rfl) _
  constructor
  case sorted => exact pairwise_numbered hsorted
  case ranks =>
    intro i p hp
    rw [getElem?_numbered, Option.map_eq_some_iff] at hp
    obtain ⟨q, -, rfl⟩ := hp
    rfl
  case distinct => rwa [hids]
  case listed => rwa [hids]
  case taken =>
    intro p hp
    obtain ⟨q, hq, heq⟩ := mem_numbered hp
    obtain ⟨row, hfirst, hrow⟩ := htaken q hq
    rw [heq]
    exact ⟨row, hfirst, hrow.canonicalId, hrow.version, hrow.stars, hrow.findings⟩

theorem isRanking_rank (hrecords : ∀ rs ∈ records, rs.length < 2 ^ 63) (stars : StarTable) (rows : List Metadata) :
    IsRanking records stars rows (rank (records.map findingCounts) stars rows) := by
  have hperm := List.mergeSort_perm (firstById (rows.filterMap (join? (records.map findingCounts) stars)))
    fun a b => !before b a
  have hdistinct := nodup_firstById (rows.filterMap (join? (records.map findingCounts) stars))
  refine isRanking_numbered (pairwise_sort hdistinct) ((hperm.map _).nodup_iff.2 hdistinct) (fun id => ?_)
    fun p hp => ?_
  · rw [(hperm.map _).mem_iff, List.mem_map]
    constructor
    · rintro ⟨p, hp, rfl⟩
      obtain ⟨-, row, hfirst, -⟩ := (mem_chosen_iff hrecords).1 hp
      exact ⟨row, firstRow?_eq_some hfirst⟩
    · rintro ⟨row, hrow, heligible, hid⟩
      obtain ⟨first, hfirst⟩ := exists_firstRow? hrow heligible hid
      obtain ⟨-, hcounts, hid⟩ := firstRow?_eq_some hfirst
      obtain ⟨p, hrank, hof⟩ := exists_isOfRow hcounts
      have hpid : p.id = id := hof.id_eq.trans hid
      exact ⟨p, (mem_chosen_iff hrecords).2 ⟨hrank, first, hpid ▸ hfirst, hof⟩, hpid⟩
  · exact ((mem_chosen_iff hrecords).1 (hperm.mem_iff.1 hp)).2

namespace IsRanking

variable {ranked ranked' : List RankedPackage}

theorem nodup (h : IsRanking records stars rows ranked) : (ranked.map fun p => { p with rank := 0 }).Nodup := by
  refine List.Nodup.of_map RankedPackage.id ?_
  rw [List.map_map]
  exact h.distinct

/-- Rank apart, the packages of a ranking are told by the rows. -/
theorem mem_iff (h : IsRanking records stars rows ranked) {q : RankedPackage} :
    (q ∈ ranked.map fun p => { p with rank := 0 }) ↔
      q.rank = 0 ∧ ∃ row, firstRow? records stars rows q.id = some row ∧ IsOfRow records stars row q := by
  rw [List.mem_map]
  constructor
  · rintro ⟨p, hp, rfl⟩
    obtain ⟨row, hfirst, hrow⟩ := h.taken p hp
    exact ⟨rfl, row, hfirst, hrow.canonicalId, hrow.version, hrow.stars, hrow.findings⟩
  · rintro ⟨hrank, row, hfirst, hrow⟩
    obtain ⟨p, hp, hid⟩ := List.mem_map.1 ((h.listed q.id).2 ⟨row, firstRow?_eq_some hfirst⟩)
    obtain ⟨row', hfirst', hrow'⟩ := h.taken p hp
    rw [hid, hfirst, Option.some.injEq] at hfirst'
    subst hfirst'
    exact ⟨p, hp, IsOfRow.unique ⟨hrow'.canonicalId, hrow'.version, hrow'.stars, hrow'.findings⟩ hrow hrank.symm⟩

theorem unique (h : IsRanking records stars rows ranked) (h' : IsRanking records stars rows ranked') :
    ranked = ranked' := by
  have hsame : (ranked.map fun p => { p with rank := 0 }) = ranked'.map fun p => { p with rank := 0 } := by
    refine @List.Perm.eq_of_pairwise _ Precedes _ _
      (fun a b _ _ hab hba => absurd hba (not_precedes_of_precedes hab))
      (List.pairwise_map.2 h.sorted) (List.pairwise_map.2 h'.sorted) ?_
    rw [List.perm_ext_iff_of_nodup h.nodup h'.nodup]
    exact fun q => h.mem_iff.trans h'.mem_iff.symm
  refine List.ext_getElem? fun i => ?_
  have hi := congrArg (fun l : List RankedPackage => l[i]?) hsame
  simp only [List.getElem?_map] at hi
  cases hp : ranked[i]? with
  | none => simpa [hp] using hi.symm
  | some p =>
    cases hq : ranked'[i]? with
    | none => simp [hp, hq] at hi
    | some q =>
      have hrank : p.rank = q.rank := (h.ranks i p hp).trans (h'.ranks i q hq).symm
      simp only [hp, hq, Option.map_some, Option.some.injEq, RankedPackage.mk.injEq, true_and] at hi
      cases p
      cases q
      simp_all

end IsRanking

/-- **Ranking is the join and the sort that it should be.** The packages of a ranking by stars are those of the first
rows that count, one for each id, in strict order, numbered from one and with the number of their records; no other list
is so. A list in memory has fewer than `2 ^ 63` records. -/
theorem rank_eq_iff_isRanking (hrecords : ∀ rs ∈ records, rs.length < 2 ^ 63) (stars : StarTable)
    (rows : List Metadata) (ranked : List RankedPackage) :
    rank (records.map findingCounts) stars rows = ranked ↔ IsRanking records stars rows ranked := by
  constructor
  · rintro rfl
    exact isRanking_rank hrecords stars rows
  · exact (isRanking_rank hrecords stars rows).unique

/-- Two rows share an id that they split in different ways, and only the second has a record. -/
theorem rank_eq_iff_isRanking_split :
    let records : List Record := [{ packageId := "b" }, { packageId := "a-1" }, { packageId := "b" }]
    let rows : List Metadata := [⟨"b", [], "x"⟩, ⟨"a", "1-2", "x"⟩, ⟨"a-1", "2", "y"⟩, ⟨"c", "2", "y"⟩]
    IsRanking (some records) [("x", 5), ("y", 9)] rows
      [⟨1, "a-1", "2", 9, 1⟩, ⟨2, "b", [], 5, 2⟩] := by
  intro records rows
  have hchosen : firstById (rows.filterMap (join? (some (findingCounts records)) [("x", 5), ("y", 9)])) =
      [⟨0, "b", [], 5, 2⟩, ⟨0, "a-1", "2", 9, 1⟩] := by decide +kernel
  have hrank : rank (some (findingCounts records)) [("x", 5), ("y", 9)] rows =
      [⟨1, "a-1", "2", 9, 1⟩, ⟨2, "b", [], 5, 2⟩] := by
    rw [rank, hchosen]
    simp [List.mergeSort, List.MergeSort.Internal.splitInTwo, before, numbered]
  have hlength : ∀ rs ∈ some records, rs.length < 2 ^ 63 := by simp [records]
  exact (rank_eq_iff_isRanking hlength _ _ _).1 hrank

end CastAudit.Ranking
