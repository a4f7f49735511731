import CastAudit.Proofs.Scan.LongLines
import Mathlib.Data.List.Chain

/-!
# Looking for some kinds only

A scan that looks for some kinds takes the headers of all others for plain lines. As long as no such header stands
directly below a header that is looked for, where it would be read as a location, the scan captures what the unrestricted
one captures of these kinds.

* `classify_restricted` — the kind of a line is the same if it is looked for, and none otherwise;
* `Undisturbed kinds lines` — no header of the kinds stands directly above a header of another kind;
* `verdictAt_restricted` — what becomes of a line of these kinds is the same in both scans;
* `ofContent_restricted` — records, failures and headers of the restricted scan are those of the unrestricted one at lines
  of these kinds.
-/

namespace CastAudit

namespace Header

theorem wanted_iff {kinds : List Kind} {kind : Kind} : wanted kinds kind = true ↔ kinds = [] ∨ kind ∈ kinds := by
  simp [wanted]

/-- **The kind of a line when some kinds are looked for.** -/
theorem classify_restricted {kinds : List Kind} (hkinds : kinds ≠ []) (line : Text) :
    classify line kinds = if classify line [] ∈ kinds then classify line [] else .none := by
  have hfound {kind : Kind} (hkind : kind ≠ .none) :
      classify line kinds = kind ↔ classify line [] = kind ∧ kind ∈ kinds := by
    rw [classify_eq_iff hkind, classify_eq_iff hkind, wanted_iff, wanted_iff]
    simp only [hkinds, false_or, true_or, true_and]
    exact ⟨fun ⟨hvalid, hmem, h⟩ => ⟨⟨hvalid, h⟩, hmem⟩, fun ⟨⟨hvalid, h⟩, hmem⟩ => ⟨hvalid, hmem, h⟩⟩
  by_cases hmem : classify line [] ∈ kinds
  · rw [if_pos hmem]
    by_cases hnone : classify line [] = .none
    · -- what is found among some kinds is found among all
      by_contra hne
      exact hne ((hfound (hnone ▸ hne)).1 rfl).1.symm
    · exact (hfound hnone).2 ⟨rfl, hmem⟩
  · rw [if_neg hmem]
    by_contra hne
    obtain ⟨heq, hkind⟩ := (hfound hne).1 rfl
    exact hmem (heq ▸ hkind)

end Header

namespace Scan

/-- The same log, and all kinds are looked for. -/
def Source.unrestricted (src : Source) : Source := { src with kinds := [] }

/-- The line announces one of the kinds. A line that announces nothing is of no kind. -/
def isOneOf (kinds : List Kind) (line : Text) : Bool :=
  Header.classify line [] != .none && kinds.contains (Header.classify line [])

/-- No header of the kinds stands directly above a header of another kind. -/
def Undisturbed (kinds : List Kind) (lines : List Text) : Prop :=
  lines.IsChain fun line below =>
    isOneOf kinds line = true → Header.classify below [] = .none ∨ Header.classify below [] ∈ kinds

instance (kinds : List Kind) (lines : List Text) : Decidable (Undisturbed kinds lines) :=
  inferInstanceAs (Decidable (List.IsChain _ lines))

section Verdicts

variable {src : Source} (hkinds : src.kinds ≠ [])
include hkinds

theorem isHeader_eq_isOneOf (line : Text) : isHeader src line = isOneOf src.kinds line := by
  rw [isHeader, kindOf, Header.classify_restricted hkinds, isOneOf]
  by_cases hmem : Header.classify line [] ∈ src.kinds
  · simp [hmem]
  · simp [hmem]

/-- A line that may stand below a header of the kinds is a header for both scans or for none. -/
theorem isHeader_unrestricted {below : Text}
    (h : Header.classify below [] = .none ∨ Header.classify below [] ∈ src.kinds) :
    isHeader src below = isHeader src.unrestricted below := by
  rw [isHeader_eq_isOneOf hkinds, isOneOf, isHeader, Source.unrestricted]
  rcases h with h | h
  · simp [h]
  · simp [h]

/-- What becomes of a line of the kinds is the same in both scans. -/
theorem verdict_restricted {line : Text} (hline : isOneOf src.kinds line = true) (number : Nat) {below : Option Text}
    (hbelow : ∀ b ∈ below, Header.classify b [] = .none ∨ Header.classify b [] ∈ src.kinds) :
    verdict src number line below = verdict src.unrestricted number line below := by
  have hone : Header.classify line [] ≠ .none ∧ Header.classify line [] ∈ src.kinds := by simpa [isOneOf] using hline
  have hkind : kindOf src line = kindOf src.unrestricted line := by
    rw [kindOf, Header.classify_restricted hkinds, if_pos hone.2]
    rfl
  have hheader : isHeader src line = isHeader src.unrestricted line := by rw [isHeader, isHeader, hkind]
  have hsettle : ∀ r : Record, settle src r below = settle src.unrestricted r below := by
    intro r
    cases below with
    | none => rfl
    | some b =>
      rw [settle, settle, isHeader_unrestricted hkinds (hbelow b rfl)]
      rfl
  rw [verdict, verdict, hheader, hkind]
  cases Header.extract line (kindOf src.unrestricted line) with
  | ok r =>
    simp only [hsettle]
    rfl
  | error e => rfl

/-- **A restricted scan judges the lines of its kinds, and as the unrestricted one does.** -/
theorem verdictAt_restricted {lines : List Text} (h : Undisturbed src.kinds lines) (i : Nat) :
    verdictAt src 1 lines i =
      if (lines[i]?).any (isOneOf src.kinds) then verdictAt src.unrestricted 1 lines i else none := by
  cases hline : lines[i]? with
  | none => simp [verdictAt, hline]
  | some line =>
    rw [verdictAt_of_line hline, verdictAt_of_line hline, Option.any_some]
    split
    · next hone =>
      refine verdict_restricted hkinds hone (i + 1) fun below hbelow => ?_
      obtain ⟨hi, rfl⟩ := List.getElem?_eq_some_iff.1 hbelow
      have hstep := List.isChain_iff_getElem.1 h i hi
      rw [List.getElem?_eq_getElem (by omega), Option.some.injEq] at hline
      exact hstep (hline ▸ hone)
    · next hother =>
      exact verdict_of_noise src (by simpa [isHeader_eq_isOneOf hkinds] using hother) (i + 1) _

/-- What is read off the verdicts of the restricted scan is what is read off those of the unrestricted one at lines of
the kinds. -/
theorem filterMap_verdicts_restricted {lines : List Text} (h : Undisturbed src.kinds lines) {α : Type}
    {f : Verdict → Option α} {keep : α → Bool}
    (hkeep : ∀ i v a, verdictAt src.unrestricted 1 lines i = some v → f v = some a →
      keep a = (lines[i]?).any (isOneOf src.kinds)) :
    (verdicts src 1 lines).filterMap f = ((verdicts src.unrestricted 1 lines).filterMap f).filter keep := by
  rw [verdicts, verdicts, List.filterMap_filterMap, List.filterMap_filterMap, List.filter_filterMap]
  refine List.filterMap_congr fun i _ => ?_
  rw [verdictAt_restricted hkinds h]
  cases hv : verdictAt src.unrestricted 1 lines i with
  | none => simp
  | some v =>
    cases ha : f v with
    | none => split <;> simp [ha]
    | some a =>
      rw [Option.bind_some, ha, Option.filter_some, hkeep i v a hv ha]
      split <;> simp [ha]

end Verdicts

/-! ## scans of lines -/

section Lines

variable {src : Source} (hkinds : src.kinds ≠ []) {lines : List Text} (h : Undisturbed src.kinds lines)

include hkinds h in
theorem records_restricted :
    (ofLines src lines).records =
      (ofLines src.unrestricted lines).records.filter fun r => src.kinds.contains r.kind := by
  rw [records_ofLines, records_ofLines]
  refine filterMap_verdicts_restricted hkinds h fun i v r hv hr => ?_
  rw [Verdict.record?_eq_some.1 hr] at hv
  obtain ⟨line, below, fields, hline, -, hheader, hextract, -, -, rfl⟩ := verdictAt_eq_record.1 hv
  have hkind : fields.kind = Header.classify line [] := kind_of_extract hextract
  have hsome : (Header.classify line [] != .none) = true := hheader
  rw [hline, Option.any_some, isOneOf, hsome, hkind]
  rfl

/-- The failure is at a line that announces one of the kinds. -/
def isAtOneOf (kinds : List Kind) (lines : List Text) (f : Failure) : Bool :=
  (lines[f.line.toNat - 1]?).any (isOneOf kinds)

include hkinds h in
theorem failures_restricted :
    (ofLines src lines).failures =
      (ofLines src.unrestricted lines).failures.filter (isAtOneOf src.kinds lines) := by
  rw [failures_ofLines, failures_ofLines]
  refine filterMap_verdicts_restricted hkinds h fun i v f hv hf => ?_
  rw [Verdict.failure?_eq_some.1 hf] at hv
  have hnumber : f.line.toNat - 1 = i := by
    have := (verdictAt_eq_failure.1 hv).line_eq
    omega
  rw [isAtOneOf, hnumber]

include hkinds in
variable (lines) in
theorem headers_restricted : (ofLines src lines).headers = lines.countP (isOneOf src.kinds) := by
  rw [(positional_ofLines src lines).headers_eq]
  exact List.countP_congr fun line _ => by rw [isHeader_eq_isOneOf hkinds]

end Lines

/-! ## scans of contents -/

/-- **What a restricted scan gives, told by the unrestricted one.** Both read the lines of the content up to the first
over-long one, whose failure is at the line below the last one that was read. -/
structure Restricted (kinds : List Kind) (content : Text) (all part : Scan × Option Fault) : Prop where
  packageId : part.1.packageId = all.1.packageId
  logPath : part.1.logPath = all.1.logPath
  records : part.1.records = all.1.records.filter fun r => kinds.contains r.kind
  failures : part.1.failures = all.1.failures.filter fun f =>
    decide (f.line = (all.1.lines : Int) + 1) || isAtOneOf kinds (Lines.raw content) f
  headers : part.1.headers = (linesRead content).countP (isOneOf kinds)
  lines : part.1.lines = all.1.lines
  count : all.1.lines = (linesRead content).length
  fault : part.2 = all.2

/-- A scan reads all lines of a content, or those above the first over-long one. -/
theorem ofContent_cases (content : Text) :
    (∀ src, ofContent src content = (ofLines src (linesRead content), none)) ∨ FirstLong content (linesRead content) := by
  by_cases hlong : ∃ line ∈ Lines.raw content, Lines.wide ≤ line.length
  · exact .inr (firstLong_linesRead hlong)
  · push Not at hlong
    refine .inl fun src => ?_
    rw [ofContent_of_fits src hlong, ofLines_dropReturn, linesRead_of_fits hlong]

/-- **Looking for some kinds only filters.** If no header of the kinds stands directly above a header of another kind,
the scan that looks for these kinds gives the records, failures and headers of the unrestricted scan at their lines, reads
the same lines and is stopped by the same fault. -/
theorem ofContent_restricted (src : Source) (content : Text) (hkinds : src.kinds ≠ [])
    (h : Undisturbed src.kinds (Lines.raw content)) :
    (∀ line, Header.classify line src.kinds =
      if Header.classify line [] ∈ src.kinds then Header.classify line [] else .none) ∧
    Restricted src.kinds content (ofContent src.unrestricted content) (ofContent src content) := by
  refine ⟨fun line => Header.classify_restricted hkinds line, ?_⟩
  obtain ⟨rest, hraw⟩ := linesRead_isPrefix content
  rw [← hraw] at h
  have hlines : Undisturbed src.kinds (linesRead content) := h.left_of_append
  have hall := (positional_ofLines src.unrestricted (linesRead content)).lines_eq
  have hpart := (positional_ofLines src (linesRead content)).lines_eq
  -- a failure of the lines that were read is at one of them
  have hwithin : ∀ f ∈ (ofLines src.unrestricted (linesRead content)).failures,
      isAtOneOf src.kinds (linesRead content) f =
        (decide (f.line = ((linesRead content).length : Int) + 1) || isAtOneOf src.kinds (Lines.raw content) f) := by
    intro f hf
    have hline := line_le_of_mem_failures hf
    have hne : ¬ f.line = ((linesRead content).length : Int) + 1 := by omega
    have hat : (Lines.raw content)[f.line.toNat - 1]? = (linesRead content)[f.line.toNat - 1]? := by
      rw [← hraw, List.getElem?_append_left (by omega)]
    rw [isAtOneOf, isAtOneOf, hat, decide_eq_false hne, Bool.false_or]
  have hfailures := (failures_restricted hkinds hlines).trans (List.filter_congr hwithin)
  have hrecords := records_restricted hkinds hlines
  have hheaders := headers_restricted hkinds (linesRead content)
  rcases ofContent_cases content with hof | hfirst
  · rw [hof, hof]
    exact ⟨rfl, rfl, hrecords, by rw [hall]; exact hfailures, hheaders, by rw [hall, hpart], hall, rfl⟩
  · rw [ofContent_of_firstLong src.unrestricted hfirst, ofContent_of_firstLong src hfirst]
    refine ⟨rfl, rfl, hrecords, ?_, hheaders, by rw [hall, hpart], hall, rfl⟩
    have hkept : [longFailure src (linesRead content).length] =
        [longFailure src.unrestricted (linesRead content).length].filter fun f =>
          decide (f.line = ((linesRead content).length : Int) + 1) || isAtOneOf src.kinds (Lines.raw content) f := by
      simp [longFailure, Source.failure, Source.unrestricted]
    simp only [hall, List.filter_append, ← hkept, hfailures]

/-- A finding of another kind, a finding of the kinds, and a header of either sort that cannot be read. -/
theorem ofContent_restricted_mixed :
    let src : Source := ⟨"demo-0.1.0", "demo-0.1.0/lint.log", [.cast, .brokenLayout]⟩
    let content := Text.unlines ["warning: Here is transmute(a>A>B=>r)", "  --> src/a.rs:1:1",
      "warning: Here is cast(b>C>D=>mut>L)", "  --> src/b.rs:2:2", "warning: Here is transmute(broken)",
      "Error (BrokenLayout:): no caller", "noise"]
    let other : Record := ⟨.transmute, src.packageId, "a", "A", "B", [], "r", "src/a.rs:1:1", src.logPath, 1⟩
    let found : Record := ⟨.cast, src.packageId, "b", "C", "D", "mut", "L", "src/b.rs:2:2", src.logPath, 3⟩
    let broken := src.failure 5 "parse error: transmute header: expected one \"=>\" separator, got 0"
    let nameless := src.failure 6 "parse error: broken-layout header: no backtick-quoted caller"
    let scan (records : List Record) (failures : List Failure) (headers : Nat) : Scan :=
      { packageId := src.packageId, logPath := src.logPath, records, failures, lines := 7, headers }
    src.kinds ≠ [] ∧ Undisturbed src.kinds (Lines.raw content) ∧
      Restricted src.kinds content (ofContent src.unrestricted content) (ofContent src content) ∧
      (ofContent src.unrestricted content).1 = scan [other, found] [broken, nameless] 4 ∧
      (ofContent src content).1 = scan [found] [nameless] 2 := by
  intro src content other found broken nameless scan
  have hkinds : src.kinds ≠ [] := by decide
  have h : Undisturbed src.kinds (Lines.raw content) := by decide +kernel
  exact ⟨hkinds, h, (ofContent_restricted src content hkinds h).2, by decide +kernel, by decide +kernel⟩

end Scan

end CastAudit
