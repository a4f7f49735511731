import CastAudit.Pattern
import CastAudit.Proofs.Scan.Positions
import CastAudit.Proofs.Text.Distinct
import CastAudit.Proofs.Text.Numbers
import Mathlib.Data.List.Nodup

/-!
# Frequencies of patterns

A frequency table is told by its records alone: neither their order nor the order in which counters are gone through
shows in it, since no two rows of a table are equal in the order of tables.

* `Kind.tag_injective` — kinds are told apart by their tags, unknown ones too;
* `Pattern.before_iff`, `PatternCount.before_iff` — the orders of patterns and of rows, as lexicographic ones;
* `Tally` — the counters while records are read, and `Tally.Tells`: an order in which they can be gone through;
* `IsFrequency` — what a frequency table is, and `isFrequency_iff`: there is one, which `frequency` gives;
* `frequency_exact` — however the records are ordered and the counters gone through, the result is that table.
-/

namespace CastAudit

theorem Text.wrap64_of_natCast {n : Nat} (h : n < 2 ^ 63) : Text.wrap64 n = n :=
  Int.bmod_eq_of_le (by omega) (by omega)

theorem Text.ofInt_injective : Function.Injective Text.ofInt := by
  intro i j h
  have hsign := congrArg Text.signOf h
  rw [Text.signOf_ofInt, Text.signOf_ofInt, Prod.mk.injEq] at hsign
  obtain ⟨hneg, hdigits⟩ := hsign
  have habs : i.natAbs = j.natAbs := by
    rw [← Text.digitsValue_ofNat i.natAbs, hdigits, Text.digitsValue_ofNat]
  have hside : i < 0 ↔ j < 0 := by simpa using hneg
  omega

/-! ## tags -/

/-- The kinds that have a name. -/
def Kind.named : List Kind := .none :: recognized

theorem Kind.mem_named_or_other (kind : Kind) : kind ∈ named ∨ ∃ code, kind = .other code := by
  cases kind with
  | other code => exact .inr ⟨code, rfl⟩
  | none | cast | transmute | brokenLayout | uninitExposure | brokenBitPatterns => exact .inl (by decide)

theorem Kind.head?_tag_other (code : Int) : (Kind.other code).tag.head? = some 0x6b := by
  have hword : ("kind(" : Text) = 0x6b :: "ind(" := by decide
  rw [tag, hword]
  rfl

theorem Kind.head?_tag_named : ∀ kind ∈ named, kind.tag.head? ≠ some 0x6b := by decide

/-- **Tags tell all kinds apart**, those with a name and those with a code alone. -/
theorem Kind.tag_injective : Function.Injective Kind.tag := by
  have hnamed : ∀ k ∈ named, ∀ l ∈ named, k.tag = l.tag → k = l := by decide
  intro k l h
  rcases k.mem_named_or_other with hk | ⟨c, rfl⟩ <;> rcases l.mem_named_or_other with hl | ⟨d, rfl⟩
  · exact hnamed k hk l hl h
  · exact absurd (h ▸ head?_tag_other d) (head?_tag_named k hk)
  · exact absurd (h ▸ head?_tag_other c) (head?_tag_named l hl)
  · have hcode : Text.ofInt c = Text.ofInt d := List.append_cancel_left (List.append_cancel_right h)
    rw [Text.ofInt_injective hcode]

/-! ## orders -/

namespace Pattern

/-- What patterns are ordered by. -/
def texts (p : Pattern) : List Text := [p.kind.tag, p.fromType, p.toType]

theorem texts_injective : Function.Injective texts := by
  intro p q h
  obtain ⟨kind, fromType, toType⟩ := p
  obtain ⟨kind', fromType', toType'⟩ := q
  simp only [texts, List.cons.injEq, and_true] at h
  rw [Kind.tag_injective h.1, h.2.1, h.2.2]

theorem before_iff {p q : Pattern} : p.before q = true ↔ p.texts < q.texts := by
  simp only [before, texts, Text.before, List.cons_lt_cons_iff, List.not_lt_nil, and_false, or_false]
  by_cases htag : p.kind.tag = q.kind.tag
  · by_cases hfrom : p.fromType = q.fromType
    · simp [htag, hfrom, List.lt_irrefl]
    · simp [htag, hfrom, List.lt_irrefl]
  · simp [htag]

end Pattern

namespace PatternCount

variable {a b c : PatternCount}

theorem before_iff_or :
    a.before b = true ↔ b.count < a.count ∨ a.count = b.count ∧ a.pattern.before b.pattern = true := by
  rw [before]
  by_cases h : a.count = b.count
  · simp [h]
  · simp [h]

theorem before_iff :
    a.before b = true ↔ b.count < a.count ∨ a.count = b.count ∧ a.pattern.texts < b.pattern.texts := by
  rw [before_iff_or, Pattern.before_iff]

theorem before_trans (hab : a.before b = true) (hbc : b.before c = true) : a.before c = true := by
  rw [before_iff] at hab hbc ⊢
  rcases hab with hab | ⟨hab, htexts⟩ <;> rcases hbc with hbc | ⟨hbc, htexts'⟩
  · left; omega
  · left; omega
  · left; omega
  · right; exact ⟨by omega, List.lt_trans htexts htexts'⟩

theorem before_asymm (hab : a.before b = true) : b.before a = false := by
  rw [before_iff] at hab
  rw [← Bool.not_eq_true, before_iff]
  rintro (hba | ⟨hba, htexts'⟩) <;> rcases hab with hab | ⟨hab, htexts⟩
  · omega
  · omega
  · omega
  · exact List.lt_asymm htexts htexts'

/-- **Different rows are never equal in the order**, so a sort has one result. -/
theorem before_or_before (h : a ≠ b) : a.before b = true ∨ b.before a = true := by
  by_contra hneither
  rw [not_or, before_iff, before_iff] at hneither
  obtain ⟨hab, hba⟩ := hneither
  have hcount : a.count = b.count := by omega
  have htexts : a.pattern.texts = b.pattern.texts := by
    apply List.le_antisymm
    · exact List.not_lt.1 fun hlt => hba (.inr ⟨hcount.symm, hlt⟩)
    · exact List.not_lt.1 fun hlt => hab (.inr ⟨hcount, hlt⟩)
  obtain ⟨p, m⟩ := a
  obtain ⟨q, n⟩ := b
  simp only at hcount htexts
  exact h (by rw [hcount, Pattern.texts_injective htexts])

theorem not_before_iff : (!b.before a) = true ↔ a = b ∨ a.before b = true := by
  rw [Bool.not_eq_true']
  constructor
  · intro h
    by_cases heq : a = b
    · exact .inl heq
    · exact .inr ((before_or_before heq).resolve_right (by simp [h]))
  · rintro (rfl | h)
    · cases hself : a.before a with
      | false => rfl
      | true => exact hself.symm.trans (before_asymm hself)
    · exact before_asymm h

theorem not_before_trans (hab : (!b.before a) = true) (hbc : (!c.before b) = true) : (!c.before a) = true := by
  rw [not_before_iff] at hab hbc ⊢
  rcases hab with rfl | hab
  · exact hbc
  · rcases hbc with rfl | hbc
    · exact .inr hab
    · exact .inr (before_trans hab hbc)

theorem not_before_total (a b : PatternCount) : ((!b.before a) || (!a.before b)) = true := by
  cases h : b.before a with
  | false => rfl
  | true => simp [before_asymm h]

end PatternCount

/-! ## counters -/

/-- The counters while records are read, zero for a pattern that has not occurred. -/
abbrev Tally := Pattern → Nat

namespace Tally

/-- The counters after one more record. -/
def add (t : Tally) (r : Record) : Tally := Function.update t r.pattern (t r.pattern + 1)

/-- The counters after some records. -/
def ofRecords (records : List Record) : Tally := records.foldl add fun _ => 0

/-- The rows are those of the counters that were set, each once, in any order. -/
structure Tells (t : Tally) (rows : List PatternCount) : Prop where
  nodup : rows.Nodup
  mem_iff : ∀ c, c ∈ rows ↔ 0 < t c.pattern ∧ c.count = (t c.pattern : Int)

theorem foldl_add (records : List Record) : ∀ (t : Tally) (p : Pattern),
    records.foldl add t p = t p + (records.map Record.pattern).count p := by
  induction records with
  | nil => intro t p; rfl
  | cons r records ih =>
    intro t p
    rw [List.foldl_cons, ih, List.map_cons, List.count_cons]
    by_cases h : r.pattern = p
    · subst h
      simp only [add, Function.update_self, beq_self_eq_true, if_true]
      omega
    · have hne : (r.pattern == p) = false := by simpa using h
      simp [add, Function.update_of_ne (Ne.symm h), hne]

theorem ofRecords_eq (records : List Record) (p : Pattern) :
    ofRecords records p = (records.map Record.pattern).count p := by
  rw [ofRecords, foldl_add, Nat.zero_add]

theorem ofRecords_pos {records : List Record} {p : Pattern} :
    0 < ofRecords records p ↔ ∃ r ∈ records, r.pattern = p := by
  rw [ofRecords_eq, List.count_pos_iff, List.mem_map]

theorem ofRecords_perm {records records' : List Record} (h : records.Perm records') :
    ofRecords records = ofRecords records' := by
  funext p
  rw [ofRecords_eq, ofRecords_eq]
  exact (h.map Record.pattern).count_eq p

theorem Tells.perm {t : Tally} {rows rows' : List PatternCount} (h : t.Tells rows) (h' : t.Tells rows') :
    rows.Perm rows' := by
  rw [List.perm_ext_iff_of_nodup h.nodup h'.nodup]
  intro c
  rw [h.mem_iff, h'.mem_iff]

theorem Tells.of_perm {t : Tally} {rows rows' : List PatternCount} (h : t.Tells rows) (hperm : rows'.Perm rows) :
    t.Tells rows' :=
  ⟨hperm.nodup_iff.2 h.nodup, fun c => hperm.mem_iff.trans (h.mem_iff c)⟩

theorem Tells.nodup_patterns {t : Tally} {rows : List PatternCount} (h : t.Tells rows) :
    (rows.map PatternCount.pattern).Nodup := by
  refine List.Nodup.map_on ?_ h.nodup
  intro a ha b hb heq
  obtain ⟨-, hcount⟩ := (h.mem_iff a).1 ha
  obtain ⟨-, hcount'⟩ := (h.mem_iff b).1 hb
  obtain ⟨p, m⟩ := a
  obtain ⟨q, n⟩ := b
  simp only at heq hcount hcount'
  rw [heq] at hcount ⊢
  rw [hcount, hcount']

end Tally

/-! ## tables -/

/-- The frequency table of some records: each of their patterns in one row, with the number of its records, and the rows
in strict order. -/
structure IsFrequency (records : List Record) (rows : List PatternCount) : Prop where
  sorted : rows.Pairwise fun a b => b.count < a.count ∨ a.count = b.count ∧ a.pattern.before b.pattern = true
  distinct : (rows.map PatternCount.pattern).Nodup
  listed : ∀ p, p ∈ rows.map PatternCount.pattern ↔ ∃ r ∈ records, r.pattern = p
  counted : ∀ c ∈ rows, c.count = ((records.countP fun r => r.pattern == c.pattern) : Int)

section Tables

variable {records : List Record} {rows rows' : List PatternCount}

theorem countP_pattern (records : List Record) (p : Pattern) :
    (records.countP fun r => r.pattern == p) = Tally.ofRecords records p := by
  rw [Tally.ofRecords_eq, List.count_eq_countP, List.countP_map]
  rfl

theorem IsFrequency.tells (h : IsFrequency records rows) : (Tally.ofRecords records).Tells rows where
  nodup := h.distinct.of_map _
  mem_iff c := by
    rw [Tally.ofRecords_pos, ← h.listed, ← countP_pattern]
    constructor
    · intro hc
      exact ⟨List.mem_map_of_mem hc, h.counted c hc⟩
    · rintro ⟨hpattern, hcount⟩
      obtain ⟨d, hd, heq⟩ := List.mem_map.1 hpattern
      have hsame : d = c := by
        obtain ⟨p, m⟩ := c
        obtain ⟨q, n⟩ := d
        have hn := h.counted _ hd
        simp only at heq hcount hn
        rw [heq] at hn ⊢
        rw [hn, hcount]
      exact hsame ▸ hd

theorem isFrequency_of_tells (h : (Tally.ofRecords records).Tells rows)
    (hsorted : rows.Pairwise fun a b => a.before b = true) : IsFrequency records rows where
  sorted := hsorted.imp PatternCount.before_iff_or.1
  distinct := h.nodup_patterns
  listed p := by
    rw [List.mem_map, ← Tally.ofRecords_pos]
    constructor
    · rintro ⟨c, hc, rfl⟩
      exact ((h.mem_iff c).1 hc).1
    · intro hpos
      exact ⟨⟨p, Tally.ofRecords records p⟩, (h.mem_iff _).2 ⟨hpos, rfl⟩, rfl⟩
  counted c hc := by
    rw [countP_pattern]
    exact ((h.mem_iff c).1 hc).2

/-- Where no row comes before an earlier one, different rows are in strict order. -/
theorem pairwise_before (hnodup : rows.Nodup) (h : rows.Pairwise fun a b => b.before a = false) :
    rows.Pairwise fun a b => a.before b = true := by
  refine (h.and hnodup).imp ?_
  rintro a b ⟨hle, hne⟩
  exact (PatternCount.not_before_iff.1 (by simp [hle])).resolve_left hne

theorem eq_of_pairwise_before (h : rows.Pairwise fun a b => a.before b = true)
    (h' : rows'.Pairwise fun a b => a.before b = true) (hperm : rows.Perm rows') : rows = rows' := by
  refine List.Perm.eq_of_pairwise ?_ h h' hperm
  intro a b _ _ hab hba
  rw [PatternCount.before_asymm hab] at hba
  cases hba

/-- **There is one table.** -/
theorem IsFrequency.unique (h : IsFrequency records rows) (h' : IsFrequency records rows') : rows = rows' :=
  eq_of_pairwise_before (h.sorted.imp PatternCount.before_iff_or.2) (h'.sorted.imp PatternCount.before_iff_or.2)
    (h.tells.perm h'.tells)

end Tables

namespace Pattern

variable {records : List Record}

theorem tells_frequency (records : List Record) : (Tally.ofRecords records).Tells (frequency records) := by
  let patterns := records.map Record.pattern
  have hrows : (Tally.ofRecords records).Tells
      (patterns.eraseDups.map fun p => (⟨p, patterns.count p⟩ : PatternCount)) := by
    constructor
    · refine (nodup_eraseDups patterns).map ?_
      intro p q h
      exact (PatternCount.mk.inj h).1
    · intro c
      rw [List.mem_map, Tally.ofRecords_eq, List.count_pos_iff]
      constructor
      · rintro ⟨p, hp, rfl⟩
        exact ⟨List.mem_eraseDups.1 hp, rfl⟩
      · rintro ⟨hpattern, hcount⟩
        exact ⟨c.pattern, List.mem_eraseDups.2 hpattern, by rw [← hcount]⟩
  exact hrows.of_perm (List.mergeSort_perm _ _)

theorem pairwise_frequency (records : List Record) : (frequency records).Pairwise fun a b => a.before b = true := by
  refine pairwise_before (tells_frequency records).nodup ?_
  have hsorted := @List.pairwise_mergeSort _ (fun a b : PatternCount => !b.before a)
    (fun _ _ _ => PatternCount.not_before_trans) (fun a b => PatternCount.not_before_total a b)
    ((records.map Record.pattern).eraseDups.map fun p => ⟨p, (records.map Record.pattern).count p⟩)
  exact hsorted.imp (by simp)

theorem isFrequency_frequency (records : List Record) : IsFrequency records (frequency records) :=
  isFrequency_of_tells (tells_frequency records) (pairwise_frequency records)

theorem mem_frequency {c : PatternCount} (h : c ∈ frequency records) :
    c.pattern ∈ records.map Record.pattern ∧ c.count = ((records.map Record.pattern).count c.pattern : Int) := by
  obtain ⟨hpos, hcount⟩ := ((tells_frequency records).mem_iff c).1 h
  rw [Tally.ofRecords_eq] at hpos hcount
  exact ⟨List.count_pos_iff.1 hpos, hcount⟩

/-- The counts of all patterns add up to the number of records. -/
theorem sum_frequency (records : List Record) :
    ((frequency records).map PatternCount.count).sum = (records.length : Int) := by
  let patterns := records.map Record.pattern
  have hperm : ((frequency records).map PatternCount.count).Perm
      (patterns.eraseDups.map fun p => (patterns.count p : Int)) := by
    have hsort := (List.mergeSort_perm (patterns.eraseDups.map fun p => (⟨p, patterns.count p⟩ : PatternCount))
      fun a b => !b.before a).map PatternCount.count
    rwa [List.map_map] at hsort
  rw [hperm.sum_eq, sum_count_eraseDups, List.length_map]

theorem total_ofCounts (hlength : records.length < 2 ^ 63) (top : Int) :
    (PatternReport.ofCounts (frequency records) top).total = records.length := by
  have hsum := sum_frequency records
  rw [List.sum] at hsum
  rw [PatternReport.ofCounts, Text.sum64, hsum, Text.wrap64_of_natCast hlength]

end Pattern

theorem PatternReport.patterns_ofCounts (rows : List PatternCount) (top : Int) :
    (PatternReport.ofCounts rows top).patterns =
      if 0 < top ∧ top < rows.length then rows.take top.toNat else rows := by
  rw [ofCounts]
  by_cases hpos : 0 < top
  · by_cases hlt : top < rows.length
    · simp [hpos, hlt]
    · have hall : rows.length ≤ top.toNat := by omega
      simp [hpos, hlt, List.take_of_length_le hall]
  · simp [hpos]

/-- **A frequency table is an exact count that no order shows in.** It is the one list that holds each pattern of the
records once, with the number of its records, in strict order: larger counts first, equal ones by pattern. It is the same
for all orders of the records, for all orders in which the counters are gone through, and for every way to sort. The
report of a table counts all records and has the first rows. -/
theorem Pattern.frequency_exact (records : List Record) :
    (∀ rows, frequency records = rows ↔ IsFrequency records rows) ∧
    (∀ records', records'.Perm records → frequency records' = frequency records) ∧
    (∀ gathered, (Tally.ofRecords records).Tells gathered → ∀ rows, rows.Perm gathered →
      rows.Pairwise (fun a b => b.before a = false) → rows = frequency records) ∧
    ∀ top, let report := PatternReport.ofCounts (frequency records) top
      (records.length < 2 ^ 63 → report.total = records.length) ∧
      report.patterns = if 0 < top ∧ top < (frequency records).length then (frequency records).take top.toNat
        else frequency records := by
  refine ⟨fun rows => ⟨?_, (isFrequency_frequency records).unique⟩, ?_, ?_, fun top => ⟨?_, ?_⟩⟩
  · rintro rfl
    exact isFrequency_frequency records
  · intro records' hperm
    have htells := tells_frequency records'
    rw [Tally.ofRecords_perm hperm] at htells
    exact eq_of_pairwise_before (pairwise_frequency records') (pairwise_frequency records)
      (htells.perm (tells_frequency records))
  · intro gathered htells rows hperm hsorted
    have hrows := htells.of_perm hperm
    exact eq_of_pairwise_before (pairwise_before hrows.nodup hsorted) (pairwise_frequency records)
      (hrows.perm (tells_frequency records))
  · exact fun hlength => total_ofCounts hlength top
  · exact PatternReport.patterns_ofCounts _ top

/-- Five records of four patterns, two of them of unknown kinds. Three patterns tie and are ordered by the texts of their
tags, `kind(10)` before `kind(9)`. -/
theorem Pattern.frequency_exact_ties :
    let record (kind : Kind) (fromType toType : Text) : Record := { kind, fromType, toType }
    let records := [record (.other 9) [] [], record .cast "*const A" "*mut B", record (.other 10) [] [],
      record .cast "*const A" "*mut B", record .transmute "(u8, u8)" "u16"]
    let rows : List PatternCount := [⟨⟨.cast, "*const A", "*mut B"⟩, 2⟩, ⟨⟨.other 10, [], []⟩, 1⟩,
      ⟨⟨.other 9, [], []⟩, 1⟩, ⟨⟨.transmute, "(u8, u8)", "u16"⟩, 1⟩]
    IsFrequency records rows ∧ frequency records.reverse = rows ∧
      (Tally.ofRecords records).Tells rows.reverse ∧ rows.Perm rows.reverse ∧
      rows.Pairwise (fun a b => b.before a = false) ∧ rows = frequency records ∧
      (PatternReport.ofCounts rows 3).total = 5 ∧ (PatternReport.ofCounts rows 3).patterns = rows.take 3 := by
  intro record records rows
  obtain ⟨htable, hperm, hgathered, hreport⟩ := frequency_exact records
  have hsorted : rows.Pairwise fun a b => b.before a = false := by decide +kernel
  have hcells : rows.Perm ((records.map Record.pattern).eraseDups.map fun p =>
      ⟨p, (records.map Record.pattern).count p⟩) := by decide +kernel
  have hrows : frequency records = rows :=
    (hgathered _ (tells_frequency records) rows (hcells.trans (List.mergeSort_perm _ _).symm) hsorted).symm
  have htells : (Tally.ofRecords records).Tells rows.reverse :=
    (hrows ▸ tells_frequency records).of_perm (List.reverse_perm rows)
  have hback : rows.Perm rows.reverse := (List.reverse_perm rows).symm
  obtain ⟨htotal, hpatterns⟩ := hreport 3
  rw [hrows] at htotal hpatterns
  exact ⟨(htable rows).1 hrows, (hperm _ (List.reverse_perm records)).trans hrows, htells, hback, hsorted,
    hgathered _ htells rows hback hsorted, htotal (by decide), hpatterns⟩

end CastAudit
