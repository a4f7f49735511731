import CastAudit.LineStats
import CastAudit.Proofs.Text.Lines
import CastAudit.Proofs.Text.Numbers
import CastAudit.Proofs.Text.Split
import Mathlib.Algebra.Ring.Nat
import Mathlib.Order.Nat

/-!
# Sums of number files

Sums and differences are made in 64 bits, where they could wrap round. They never do, and reading stops at the first
line that would make them.

* `numberOn line`, `numbersIn lines` — the numbers on lines, as exact numbers of any size;
* `BadAt lines i` — the line with index `i` is over-long, or its number is too large, alone or with those above it;
* `Tells lines st` — the statistics are the exact ones of some lines;
* `InRange st` — the statistics stay in 64 bits, so nothing that is computed from them wraps. One line keeps this
  (`InRange.addLine`), and so do all (`InRange.ofNumbered`);
* `ofContent_exact` — reading fails exactly if there is a bad line, and tells all that stands above the first.
-/

namespace CastAudit.LineStats

open Text (maxInt64 minInt64 wrap64)

/-! ## numbers on lines -/

/-- The number on a line: a run of digits, followed by blanks at most. -/
def numberOn (line : Text) : Option Nat :=
  let digits := Text.dropEnd line Text.isLineBlank
  if Text.isDigits digits then some (Text.digitsValue digits) else none

/-- The numbers on some lines. -/
def numbersIn (lines : List Text) : List Nat := lines.filterMap numberOn

@[simp] theorem numbersIn_nil : numbersIn [] = [] := rfl

theorem numbersIn_append (lines lines' : List Text) :
    numbersIn (lines ++ lines') = numbersIn lines ++ numbersIn lines' := List.filterMap_append

theorem numbersIn_concat (lines : List Text) (line : Text) :
    numbersIn (lines ++ [line]) = numbersIn lines ++ (numberOn line).toList := by
  rw [numbersIn_append]
  cases h : numberOn line <;> simp [numbersIn, h]

theorem length_numbersIn_le (lines : List Text) : (numbersIn lines).length ≤ lines.length :=
  List.length_filterMap_le _ _

theorem numberOn_dropReturn (line : Text) : numberOn (Lines.dropReturn line) = numberOn line := by
  unfold Lines.dropReturn
  split
  · next hlast =>
    have hblank : Text.dropEnd (line.dropLast ++ [Text.cr]) Text.isLineBlank =
        Text.dropEnd line.dropLast Text.isLineBlank := by
      rw [Text.dropEnd_eq, Text.dropEnd_eq, List.rdropWhile_concat_pos _ _ _ (by decide)]
    rw [List.dropLast_append_getLast? _ hlast] at hblank
    rw [numberOn, numberOn, hblank]
  · rfl

theorem numbersIn_map_dropReturn (lines : List Text) : numbersIn (lines.map Lines.dropReturn) = numbersIn lines := by
  rw [numbersIn, List.filterMap_map, numbersIn]
  exact List.filterMap_congr fun line _ => numberOn_dropReturn line

/-- The line with an index is over-long, or its number is too large, alone or together with the numbers above it. -/
def BadAt (lines : List Text) (i : Nat) : Prop :=
  ∃ line ∈ lines[i]?, Lines.narrow ≤ line.length ∨
    ∃ n ∈ numberOn line, 2 ^ 63 - 1 < n ∨ 2 ^ 63 - 1 < (numbersIn (lines.take (i + 1))).sum
deriving Decidable

/-- The statistics are the exact ones of some lines: the greatest number or zero, the sum and the count. -/
structure Tells (lines : List Text) (st : LineStats) : Prop where
  max : st.max = ((numbersIn lines).max?.getD 0 : Nat)
  sum : st.sum = ((numbersIn lines).sum : Nat)
  count : st.count = (numbersIn lines).length

theorem tells_blank : Tells [] {} := ⟨rfl, rfl, rfl⟩

/-- The exact statistics depend on the numbers alone. -/
theorem Tells.of_eq {lines lines' : List Text} {st : LineStats} (h : Tells lines st)
    (heq : numbersIn lines' = numbersIn lines) : Tells lines' st :=
  ⟨heq ▸ h.max, heq ▸ h.sum, heq ▸ h.count⟩

theorem getD_max?_concat (ns : List Nat) (n : Nat) : (ns ++ [n]).max?.getD 0 = Max.max (ns.max?.getD 0) n := by
  have hfold (ns : List Nat) : ns.max?.getD 0 = ns.foldl Max.max 0 := by simp [List.foldl_max]
  rw [hfold, hfold, List.foldl_append]
  rfl

/-! ## one line -/

/-- Maximum and sum are numbers of 64 bits, not below zero. -/
structure InRange (st : LineStats) : Prop where
  max : 0 ≤ st.max ∧ st.max ≤ maxInt64
  sum : 0 ≤ st.sum ∧ st.sum ≤ maxInt64

theorem inRange_blank : InRange {} := ⟨by decide, by decide⟩

section Range

variable {st : LineStats} (h : InRange st)
include h

/-- **The difference does not wrap.** -/
theorem InRange.room_eq : st.room = maxInt64 - st.sum ∧ 0 ≤ st.room := by
  obtain ⟨-, hzero, hmax⟩ := h
  have hroom : st.room = maxInt64 - st.sum :=
    Text.wrap64_eq_self (by simp only [minInt64, maxInt64] at *; omega) (by omega)
  exact ⟨hroom, by omega⟩

/-- **The sum does not wrap**, if there is room for the number. -/
theorem InRange.add_eq {n : Int} (hn : 0 ≤ n) (hroom : n ≤ st.room) :
    st.add n = ⟨Max.max st.max n, st.sum + n, st.count + 1⟩ ∧ st.sum + n ≤ maxInt64 := by
  have hle : st.sum + n ≤ maxInt64 := by
    have := h.room_eq.1
    omega
  obtain ⟨-, hzero, -⟩ := h
  have hsum : wrap64 (st.sum + n) = st.sum + n :=
    Text.wrap64_eq_self (by simp only [minInt64]; omega) hle
  exact ⟨by rw [add, hsum], hle⟩

theorem InRange.add {n : Int} (hn : 0 ≤ n) (hroom : n ≤ st.room) : InRange (st.add n) := by
  obtain ⟨hadd, hle⟩ := h.add_eq hn hroom
  have hroomle := h.room_eq
  obtain ⟨hmax, hsum⟩ := h
  rw [hadd]
  exact ⟨⟨Int.le_trans hmax.1 (Int.le_max_left ..), Int.max_le.2 ⟨hmax.2, by omega⟩⟩, ⟨Int.add_nonneg hsum.1 hn, hle⟩⟩

end Range

/-- **What becomes of a line**: it has no number, its number is added, or there is no room for it. -/
theorem addLine_cases (st : LineStats) (line : Text) (number : Nat) :
    (numberOn line = none ∧ st.addLine (line, number) = .ok st) ∨
    ∃ n, numberOn line = some n ∧
      ((n : Int) ≤ maxInt64 ∧ (n : Int) ≤ st.room ∧ st.addLine (line, number) = .ok (st.add n) ∨
        (maxInt64 < n ∨ st.room < n) ∧ ∃ fault, st.addLine (line, number) = .error fault) := by
  cases hdigits : Text.isDigits (Text.dropEnd line Text.isLineBlank) with
  | false => exact .inl ⟨by simp [numberOn, hdigits], by simp [addLine, hdigits]⟩
  | true =>
    refine .inr ⟨Text.digitsValue (Text.dropEnd line Text.isLineBlank), by simp [numberOn, hdigits], ?_⟩
    simp only [addLine, hdigits, Bool.not_true, Bool.false_eq_true, if_false, Text.readInt64_of_isDigits hdigits]
    generalize Text.digitsValue (Text.dropEnd line Text.isLineBlank) = n
    by_cases hlarge : (n : Int) ≤ maxInt64
    · by_cases hroom : st.room < n
      · exact .inr ⟨.inr hroom, by simp [hlarge, hroom]⟩
      · exact .inl ⟨hlarge, by omega, by simp [hlarge, hroom]⟩
    · exact .inr ⟨.inl (by omega), by simp [hlarge]⟩

/-- One line keeps the statistics in range. -/
theorem InRange.addLine {st st' : LineStats} (h : InRange st) {numbered : Text × Nat}
    (hline : st.addLine numbered = .ok st') : InRange st' := by
  obtain ⟨line, number⟩ := numbered
  rcases addLine_cases st line number with ⟨-, hadd⟩ | ⟨n, -, ⟨-, hroom, hadd⟩ | ⟨-, fault, hadd⟩⟩
  · cases hadd.symm.trans hline
    exact h
  · cases hadd.symm.trans hline
    exact h.add (Int.natCast_nonneg n) hroom
  · cases hadd.symm.trans hline

/-- A line for whose number there is room adds it to the exact statistics. -/
theorem Tells.addLine {front : List Text} {st : LineStats} (h : Tells front st) (hrange : InRange st) {line : Text}
    (hsum : (numbersIn (front ++ [line])).sum ≤ 2 ^ 63 - 1) (number : Nat) :
    ∃ st', st.addLine (line, number) = .ok st' ∧ Tells (front ++ [line]) st' := by
  rw [numbersIn_concat] at hsum
  rcases addLine_cases st line number with ⟨hnone, hadd⟩ | ⟨n, hn, hcases⟩
  · exact ⟨st, hadd, h.of_eq (by simp [numbersIn_concat, hnone])⟩
  · have hroom := hrange.room_eq.1
    have hexact := h.sum
    have hmore : numbersIn (front ++ [line]) = numbersIn front ++ [n] := by simp [numbersIn_concat, hn]
    simp only [hn, Option.toList_some, List.sum_append, List.sum_singleton] at hsum
    rcases hcases with ⟨-, hle, hadd⟩ | ⟨hlarge, -⟩
    · refine ⟨_, hadd, ?_⟩
      rw [(hrange.add_eq (Int.natCast_nonneg n) hle).1]
      refine ⟨?_, ?_, ?_⟩
      · have hcast (a b : Nat) : Max.max (a : Int) b = (Max.max a b : Nat) := by omega
        rw [hmore, getD_max?_concat, h.max]
        exact hcast ..
      · rw [hmore, h.sum]
        simp
      · rw [hmore, h.count]
        simp
    · simp only [maxInt64] at hroom hlarge
      omega

/-- A line for whose number there is no room is refused. -/
theorem Tells.refuses {front : List Text} {st : LineStats} (h : Tells front st) (hrange : InRange st) {line : Text}
    {n : Nat} (hn : numberOn line = some n) (hsum : 2 ^ 63 - 1 < (numbersIn front).sum + n) (number : Nat) :
    ∃ fault, st.addLine (line, number) = .error fault := by
  have hroom := hrange.room_eq.1
  have hexact := h.sum
  rcases addLine_cases st line number with ⟨hnone, -⟩ | ⟨k, hk, hcases⟩
  · rw [hn] at hnone
    cases hnone
  · cases hn.symm.trans hk
    rcases hcases with ⟨-, hle, -⟩ | ⟨-, hfault⟩
    · simp only [maxInt64] at hroom
      omega
    · exact hfault

/-! ## all lines -/

/-- **All lines keep the statistics in range.** -/
theorem InRange.ofNumbered (lines : List (Text × Nat)) : ∀ {st : LineStats}, InRange st →
    InRange (ofNumbered st lines).1 := by
  induction lines with
  | nil => exact fun h => h
  | cons line lines ih =>
    intro st h
    rw [LineStats.ofNumbered]
    cases hline : st.addLine line with
    | error fault => exact h
    | ok st' => exact ih (h.addLine hline)

/-- Lines whose numbers have room together are all added. -/
theorem Tells.ofNumbered (lines : List Text) : ∀ {front : List Text} {st : LineStats}, Tells front st → InRange st →
    (numbersIn (front ++ lines)).sum ≤ 2 ^ 63 - 1 → ∀ (number : Nat) (rest : List (Text × Nat)),
    ∃ st', Tells (front ++ lines) st' ∧ InRange st' ∧
      ofNumbered st (lines.zipIdx number ++ rest) = ofNumbered st' rest := by
  induction lines with
  | nil =>
    intro front st h hrange _ number rest
    exact ⟨st, by rwa [List.append_nil], hrange, rfl⟩
  | cons line lines ih =>
    intro front st h hrange hsum number rest
    have hassoc : front ++ line :: lines = (front ++ [line]) ++ lines := by simp
    have hfirst : (numbersIn (front ++ [line])).sum ≤ 2 ^ 63 - 1 := by
      rw [hassoc, numbersIn_append, List.sum_append] at hsum
      omega
    obtain ⟨st₁, hline, htells⟩ := h.addLine hrange hfirst number
    obtain ⟨st', htells', hrange', hrest⟩ := ih htells (hrange.addLine hline) (hassoc ▸ hsum) (number + 1) rest
    refine ⟨st', hassoc ▸ htells', hrange', ?_⟩
    rw [List.zipIdx_cons, List.cons_append, LineStats.ofNumbered, hline]
    exact hrest

/-! ## contents -/

/-- The numbers above the first bad line have room together. -/
theorem sum_le_of_not_badAt {lines : List Text} {i : Nat} (h : ∀ j < i, ¬ BadAt lines j) :
    (numbersIn (lines.take i)).sum ≤ 2 ^ 63 - 1 := by
  induction i with
  | zero => simp
  | succ i ih =>
    have hbelow := ih fun j hj => h j (by omega)
    cases hline : lines[i]? with
    | none => rwa [List.take_add_one, hline, Option.toList_none, List.append_nil]
    | some line =>
      have htake : lines.take (i + 1) = lines.take i ++ [line] := by rw [List.take_add_one, hline]; rfl
      cases hn : numberOn line with
      | none => rwa [htake, numbersIn_concat, hn, Option.toList_none, List.append_nil]
      | some n =>
        by_contra hlarge
        exact h i (by omega) ⟨line, hline, .inr ⟨n, hn, .inr (by omega)⟩⟩

theorem fits_of_not_badAt {lines : List Text} {i : Nat} (h : ∀ j < i, ¬ BadAt lines j) :
    ∀ line ∈ lines.take i, Lines.fits Lines.narrow line = true := by
  intro line hline
  obtain ⟨j, hj, hget⟩ := List.mem_take_iff_getElem.1 hline
  have hshort : ¬ Lines.narrow ≤ line.length := fun hlong =>
    h j (by omega) ⟨line, by rw [← hget]; exact List.getElem?_eq_getElem _, .inl hlong⟩
  simpa [Lines.fits] using hshort

theorem ofContent_of_good {content : Text} (h : ∀ i, ¬ BadAt (Lines.raw content) i) :
    (ofContent content).2 = none ∧ Tells (Lines.raw content) (ofContent content).1 := by
  have hall : (Lines.raw content).take (Lines.raw content).length = Lines.raw content := List.take_length
  have hfits := fits_of_not_badAt (i := (Lines.raw content).length) fun j _ => h j
  have hsum := sum_le_of_not_badAt (i := (Lines.raw content).length) fun j _ => h j
  rw [hall] at hfits hsum
  have hread : Lines.read Lines.narrow content = ⟨(Lines.raw content).map Lines.dropReturn, false⟩ :=
    Lines.read_of_fits (by decide) fun line hline => by simpa [Lines.fits] using hfits line hline
  obtain ⟨st, htells, -, hst⟩ := Tells.ofNumbered ((Lines.raw content).map Lines.dropReturn) tells_blank inRange_blank
    (by rwa [List.nil_append, numbersIn_map_dropReturn]) 1 []
  rw [List.append_nil] at hst
  have hcontent : ofContent content = (st, none) := by
    rw [ofContent, hread, hst]
    rfl
  rw [hcontent]
  exact ⟨rfl, htells.of_eq (numbersIn_map_dropReturn _).symm⟩

section Bad

variable {content : Text} {i : Nat} (hfirst : ∀ j < i, ¬ BadAt (Lines.raw content) j)
include hfirst

/-- The lines above a line that is read and of which none is bad are read. -/
theorem takeWhile_fits {line : Text} (hline : (Lines.raw content)[i]? = some line) :
    (Lines.raw content).takeWhile (Lines.fits Lines.narrow) = (Lines.raw content).take i ++
      (line :: (Lines.raw content).drop (i + 1)).takeWhile (Lines.fits Lines.narrow) := by
  conv_lhs => rw [← Lines.take_append_cons_drop hline]
  exact List.takeWhile_append_of_pos (fits_of_not_badAt hfirst)

/-- The numbers above the first bad line are told, whatever stands below them. -/
theorem exists_tells (rest : List (Text × Nat)) :
    ∃ st, Tells ((Lines.raw content).take i) st ∧ InRange st ∧
      ofNumbered {} ((((Lines.raw content).take i).map Lines.dropReturn).zipIdx 1 ++ rest) = ofNumbered st rest := by
  have hsum := sum_le_of_not_badAt hfirst
  rw [← numbersIn_map_dropReturn] at hsum
  obtain ⟨st, htells, hrange, hst⟩ := Tells.ofNumbered _ tells_blank inRange_blank hsum 1 rest
  exact ⟨st, htells.of_eq (numbersIn_map_dropReturn _).symm, hrange, hst⟩

/-- Reading stops at the first bad line, and all numbers above it are told. -/
theorem ofContent_of_bad (hbad : BadAt (Lines.raw content) i) :
    (ofContent content).2.isSome = true ∧ Tells ((Lines.raw content).take i) (ofContent content).1 := by
  obtain ⟨line, hline, hreason⟩ := hbad
  have hlines := takeWhile_fits hfirst hline
  have hread := Lines.read_eq (show 0 < Lines.narrow by decide) content
  rw [hlines] at hread
  cases hfits : Lines.fits Lines.narrow line with
  | false =>
    -- an over-long line is not read, and ends the reading
    rw [List.takeWhile_cons_of_neg (by simp [hfits]), List.append_nil] at hread
    have hall : (Lines.raw content).all (Lines.fits Lines.narrow) = false :=
      List.all_eq_false.2 ⟨line, List.mem_of_getElem? hline, by simp [hfits]⟩
    obtain ⟨st, htells, -, hst⟩ := exists_tells hfirst []
    rw [List.append_nil] at hst
    have hcontent : ofContent content = (st, some .longLine) := by
      rw [ofContent, hread, hst, hall]
      rfl
    rw [hcontent]
    exact ⟨rfl, htells⟩
  | true =>
    obtain ⟨n, hn, hlarge⟩ :
        ∃ n, numberOn line = some n ∧ 2 ^ 63 - 1 < (numbersIn ((Lines.raw content).take i)).sum + n := by
      have hshort : ¬ Lines.narrow ≤ line.length := by simpa [Lines.fits] using hfits
      obtain ⟨n, hn, hlarge⟩ := hreason.resolve_left hshort
      rw [List.take_add_one, hline, Option.toList_some, numbersIn_concat, hn, Option.toList_some, List.sum_append,
        List.sum_singleton] at hlarge
      exact ⟨n, hn, by omega⟩
    -- the number of the line finds no room
    rw [List.takeWhile_cons_of_pos hfits] at hread
    generalize ((Lines.raw content).drop (i + 1)).takeWhile (Lines.fits Lines.narrow) = below at hread
    obtain ⟨st, htells, hrange, hst⟩ := exists_tells hfirst
      ((Lines.dropReturn line :: below.map Lines.dropReturn).zipIdx
        (1 + (((Lines.raw content).take i).map Lines.dropReturn).length))
    obtain ⟨fault, hfault⟩ := htells.refuses hrange ((numberOn_dropReturn line).trans hn) hlarge
      (1 + (((Lines.raw content).take i).map Lines.dropReturn).length)
    have hcontent : ofContent content = (st, some fault) := by
      rw [ofContent, hread]
      simp only [List.map_append, List.map_cons, List.zipIdx_append, hst]
      rw [List.zipIdx_cons, LineStats.ofNumbered, hfault]
    rw [hcontent]
    exact ⟨rfl, htells⟩

end Bad

/-- **Statistics never wrap, and reading stops where it must.** Reading fails exactly if some line is bad. The statistics
are the exact ones of the lines above the first bad line, or of all lines if there is none. After each line that was
read, maximum and sum are in range, and so are the room that is left and every sum for which there is room. -/
theorem ofContent_exact (content : Text) :
    ((ofContent content).2.isSome = true ↔ ∃ i, BadAt (Lines.raw content) i) ∧
    (∀ i, IsLeast {i | BadAt (Lines.raw content) i} i → Tells ((Lines.raw content).take i) (ofContent content).1) ∧
    ((∀ i, ¬ BadAt (Lines.raw content) i) → Tells (Lines.raw content) (ofContent content).1) ∧
    (ofContent content).1.count ≤ content.length ∧
    ∀ k, let st := (ofNumbered {} (((Lines.read Lines.narrow content).lines.take k).zipIdx 1)).1
      InRange st ∧ (st.room = maxInt64 - st.sum ∧ 0 ≤ st.room) ∧
      ∀ n, 0 ≤ n → n ≤ st.room → (st.add n).sum = st.sum + n ∧ st.sum + n ≤ maxInt64 := by
  have hleast : ∀ {i}, IsLeast {i | BadAt (Lines.raw content) i} i →
      (ofContent content).2.isSome = true ∧ Tells ((Lines.raw content).take i) (ofContent content).1 :=
    fun ⟨hbad, hlower⟩ => ofContent_of_bad (fun j hj hbad' => absurd (hlower hbad') (by omega)) hbad
  have hexists : (∃ i, BadAt (Lines.raw content) i) → ∃ i, IsLeast {i | BadAt (Lines.raw content) i} i :=
    fun hbad => ⟨_, Nat.isLeast_find hbad⟩
  refine ⟨⟨fun hfault => ?_, fun hbad => ?_⟩, fun i h => (hleast h).2, fun h => (ofContent_of_good h).2, ?_, fun k => ?_⟩
  · by_contra hnone
    rw [(ofContent_of_good (not_exists.1 hnone)).1] at hfault
    cases hfault
  · obtain ⟨i, hi⟩ := hexists hbad
    exact (hleast hi).1
  -- with a fault or without, what is counted is read off the first lines
  · obtain ⟨k, htells⟩ : ∃ k, Tells ((Lines.raw content).take k) (ofContent content).1 := by
      by_cases hbad : ∃ i, BadAt (Lines.raw content) i
      · obtain ⟨i, hi⟩ := hexists hbad
        exact ⟨i, (hleast hi).2⟩
      · refine ⟨(Lines.raw content).length, ?_⟩
        rw [List.take_length]
        exact (ofContent_of_good (not_exists.1 hbad)).2
    calc (ofContent content).1.count = (numbersIn ((Lines.raw content).take k)).length := htells.count
      _ ≤ ((Lines.raw content).take k).length := length_numbersIn_le _
      _ ≤ (Lines.raw content).length := List.length_take_le' ..
      _ ≤ content.length := Lines.length_raw_le content
  · have hrange := InRange.ofNumbered (((Lines.read Lines.narrow content).lines.take k).zipIdx 1) inRange_blank
    refine ⟨hrange, hrange.room_eq, fun n hn hroom => ?_⟩
    obtain ⟨hadd, hle⟩ := hrange.add_eq hn hroom
    exact ⟨by rw [hadd], hle⟩

/-- The sum may reach the end of the range, and then a one below is bad. -/
theorem ofContent_exact_full :
    let content : Text := "7\r\nx\n0009223372036854775800 \t\n0\n1\n2\n"
    IsLeast {i | BadAt (Lines.raw content) i} 4 ∧
      numbersIn ((Lines.raw content).take 4) = [7, 9223372036854775800, 0] ∧
      Tells ((Lines.raw content).take 4) (ofContent content).1 := by
  intro content
  have hleast : IsLeast {i | BadAt (Lines.raw content) i} 4 := by
    refine ⟨show BadAt (Lines.raw content) 4 by decide +kernel, fun i hbad => ?_⟩
    have hfirst : ∀ i < 4, ¬ BadAt (Lines.raw content) i := by decide +kernel
    exact Nat.le_of_not_lt fun hlt => hfirst i hlt hbad
  exact ⟨hleast, by decide +kernel, (ofContent_exact content).2.1 4 hleast⟩

end CastAudit.LineStats
