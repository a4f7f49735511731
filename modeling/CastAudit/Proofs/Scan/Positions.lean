import CastAudit.Proofs.Text.Lines
import CastAudit.Scan

/-!
# A scan by positions

The scanner carries a pending record from line to line. What it captures can be said without that state:
the fate of a header line depends on the line itself and on the line directly below it.

* `verdict src number line below` — what becomes of a line: nothing for a line that is no header; a header
  gives a record, gives a failure, or is dropped because another header or the end of the log follows it;
* `forecast src st lines` — what the scan will be when the state `st` still has `lines` before it.
  One step keeps the forecast (`forecast_step`), so the scan of some lines is the forecast of the first
  state (`ofLines_eq`);
* `ofContent_positional` — the scan of a content, stated line by line.
-/

namespace CastAudit

namespace Scan

/-! ## verdicts -/

/-- What becomes of a header line. -/
inductive Verdict where
  | record (r : Record)
  | failure (f : Failure)
  /-- Another header or the end of the log follows. -/
  | dropped
deriving Repr, DecidableEq

namespace Verdict

/-- The record of a verdict. -/
@[simp] def record? : Verdict → Option Record
  | record r => some r
  | _ => none

/-- The failure of a verdict. -/
@[simp] def failure? : Verdict → Option Failure
  | failure f => some f
  | _ => none

theorem record?_eq_some {v : Verdict} {r : Record} : v.record? = some r ↔ v = record r := by
  cases v <;> simp

theorem failure?_eq_some {v : Verdict} {f : Failure} : v.failure? = some f ↔ v = failure f := by
  cases v <;> simp

end Verdict

/-- The kind that a line announces to a scan. -/
abbrev kindOf (src : Source) (line : Text) : Kind := Header.classify line src.kinds

/-- The line announces a kind that is looked for. -/
def isHeader (src : Source) (line : Text) : Bool := kindOf src line != .none

/-- What becomes of an opened record when `below` is the line below its header. -/
def settle (src : Source) (r : Record) : Option Text → Verdict
  | none => .dropped
  | some below =>
    if isHeader src below then .dropped
    else if (Location.extract below r.kind).isEmpty then
      .failure ⟨src.packageId, src.logPath, r.line, missingLocation r.kind⟩
    else .record { r with location := Location.extract below r.kind }

/-- The record that a header opens on a line of a log. -/
def opened (src : Source) (number : Nat) (r : Record) : Record :=
  { r with packageId := src.packageId, logPath := src.logPath, line := (number : Int) }

/-- What becomes of the line with a number when `below` is the line below it. -/
def verdict (src : Source) (number : Nat) (line : Text) (below : Option Text) : Option Verdict :=
  if isHeader src line then
    match Header.extract line (kindOf src line) with
    | .ok r => some (settle src (opened src number r) below)
    | .error e => some (.failure (src.failure number e.message))
  else none

/-- What becomes of the line at index `i` when the line at index 0 has the number `first`. -/
def verdictAt (src : Source) (first : Nat) (lines : List Text) (i : Nat) : Option Verdict :=
  lines[i]?.bind fun line => verdict src (first + i) line lines[i + 1]?

/-- The verdicts on all header lines, in order. -/
def verdicts (src : Source) (first : Nat) (lines : List Text) : List Verdict :=
  (List.range lines.length).filterMap (verdictAt src first lines)

section Verdicts

variable (src : Source)

theorem verdict_of_noise {line : Text} (h : isHeader src line = false) (number : Nat) (below : Option Text) :
    verdict src number line below = none := by
  simp [verdict, h]

theorem verdictAt_succ (first : Nat) (line : Text) (lines : List Text) (i : Nat) :
    verdictAt src first (line :: lines) (i + 1) = verdictAt src (first + 1) lines i := by
  simp only [verdictAt, List.getElem?_cons_succ]
  rw [Nat.add_right_comm, Nat.add_assoc first i 1, Nat.add_comm i 1, ← Nat.add_assoc]

theorem verdicts_cons (first : Nat) (line : Text) (lines : List Text) :
    verdicts src first (line :: lines) =
      (verdict src first line lines.head?).toList ++ verdicts src (first + 1) lines := by
  have hzero : verdictAt src first (line :: lines) 0 = verdict src first line lines.head? := by
    simp [verdictAt, List.head?_eq_getElem?]
  have hsucc : verdictAt src first (line :: lines) ∘ Nat.succ = verdictAt src (first + 1) lines :=
    funext (verdictAt_succ src first line lines)
  unfold verdicts
  rw [List.length_cons, List.range_succ_eq_map, List.filterMap_cons, hzero, List.filterMap_map, hsucc]
  cases verdict src first line lines.head? <;> rfl

end Verdicts

/-! ## the forecast -/

/-- The verdicts still to come: on the pending record, then on the lines ahead. -/
def outlook (src : Source) (st : State) (lines : List Text) : List Verdict :=
  (st.pending.map fun r => settle src r lines.head?).toList ++ verdicts src (st.lines + 1) lines

/-- What the scan will be when the state still has `lines` before it. -/
def forecast (src : Source) (st : State) (lines : List Text) : Scan where
  packageId := src.packageId
  logPath := src.logPath
  records := st.records.reverse ++ (outlook src st lines).filterMap Verdict.record?
  failures := st.failures.reverse ++ (outlook src st lines).filterMap Verdict.failure?
  lines := st.lines + lines.length
  headers := st.headers + lines.countP (isHeader src)

section Forecast

variable (src : Source) (st : State)

theorem step_of_header {line : Text} (h : isHeader src line = true) :
    step src st line = header src { st with lines := st.lines + 1 } line (kindOf src line) := by
  have hk : Header.classify line src.kinds ≠ .none := by simpa [isHeader] using h
  rw [step]
  split
  · next hnone => exact absurd hnone hk
  · rfl

theorem step_of_noise {line : Text} (h : isHeader src line = false) :
    step src st line =
      match st.pending with
      | some r => continuation src { st with lines := st.lines + 1 } line r
      | none => { st with lines := st.lines + 1 } := by
  have hk : Header.classify line src.kinds = .none := by simpa [isHeader] using h
  rw [step]
  split
  · rfl
  · next hkind => exact absurd hk hkind

/-- No kind, no location: a record is complete as soon as it has a location. -/
theorem complete_iff (r : Record) (line : Text) :
    { r with location := Location.extract line r.kind }.complete = !(Location.extract line r.kind).isEmpty := by
  by_cases hk : r.kind = .none
  · simp [Record.complete, hk, Location.extract, Kind.marker?]
  · simp [Record.complete, hk]

/-- The line below a header settles its record. -/
theorem continuation_eq (line : Text) (r : Record) :
    continuation src st line r =
      if Location.extract line r.kind = [] then
        { st with
          pending := none
          failures := ⟨src.packageId, src.logPath, r.line, missingLocation r.kind⟩ :: st.failures }
      else
        { st with
          pending := none
          records := { r with location := Location.extract line r.kind } :: st.records } := by
  rw [continuation]
  simp only [complete_iff]
  cases Location.extract line r.kind <;> rfl

theorem forecast_nil : forecast src st [] = st.toScan src := by
  cases hp : st.pending <;>
    simp [forecast, State.toScan, outlook, verdicts, settle, hp, List.filterMap_cons]

/-- A header line: the pending record is dropped, and the header is judged by the line below it. -/
theorem forecast_header {line : Text} (h : isHeader src line = true) (rest : List Text) :
    forecast src (step src st line) rest = forecast src st (line :: rest) := by
  have hdrop : (outlook src st (line :: rest)).filterMap Verdict.record? =
        (verdicts src (st.lines + 1) (line :: rest)).filterMap Verdict.record? ∧
      (outlook src st (line :: rest)).filterMap Verdict.failure? =
        (verdicts src (st.lines + 1) (line :: rest)).filterMap Verdict.failure? := by
    cases hp : st.pending <;> simp [outlook, settle, h, hp, List.filterMap_cons]
  rw [step_of_header src st h, header]
  simp only [forecast, hdrop.1, hdrop.2, verdicts_cons, verdict, h, if_true]
  cases Header.extract line (kindOf src line) with
  | ok r => simp [outlook, opened, List.countP_cons_of_pos, h]; omega
  | error e =>
    simp [outlook, List.countP_cons_of_pos, h, List.filterMap_cons]
    omega

/-- Any other line: the pending record, if there is one, is settled by it. -/
theorem forecast_noise {line : Text} (h : isHeader src line = false) (rest : List Text) :
    forecast src (step src st line) rest = forecast src st (line :: rest) := by
  have hneg : ¬ isHeader src line = true := by simp [h]
  rw [step_of_noise src st h]
  cases hp : st.pending with
  | none =>
    simp [forecast, outlook, hp, verdicts_cons, verdict_of_noise src h, List.countP_cons_of_neg hneg]
    omega
  | some r =>
    by_cases hloc : Location.extract line r.kind = []
    · simp [continuation_eq, hloc, forecast, outlook, hp, settle, h, verdicts_cons,
        verdict_of_noise src h, List.countP_cons_of_neg hneg, List.filterMap_cons]
      omega
    · simp [continuation_eq, hloc, forecast, outlook, hp, settle, h, verdicts_cons,
        verdict_of_noise src h, List.countP_cons_of_neg hneg, List.filterMap_cons]
      omega

/-- **One step keeps the forecast.** -/
theorem forecast_step (line : Text) (rest : List Text) :
    forecast src (step src st line) rest = forecast src st (line :: rest) := by
  cases h : isHeader src line with
  | true => exact forecast_header src st h rest
  | false => exact forecast_noise src st h rest

/-- **A whole run keeps the forecast.** -/
theorem forecast_foldl (lines : List Text) : ∀ st : State,
    (lines.foldl (step src) st).toScan src = forecast src st lines := by
  induction lines with
  | nil => intro st; exact (forecast_nil src st).symm
  | cons line rest ih =>
    intro st
    rw [List.foldl_cons, ih, forecast_step]

end Forecast

theorem ofLines_eq (src : Source) (lines : List Text) : ofLines src lines = forecast src {} lines :=
  forecast_foldl src lines {}

/-! ## positions -/

section Positions

variable (src : Source) (lines : List Text)

/-- Line `i`, counted from zero, gives a record: it is a header whose fields can be read, and the line
below it is there, is no header and carries a location. -/
def RecordAt (i : Nat) (r : Record) : Prop :=
  ∃ line below fields, lines[i]? = some line ∧ lines[i + 1]? = some below ∧ isHeader src line = true ∧
    Header.extract line (kindOf src line) = .ok fields ∧ isHeader src below = false ∧
    Location.extract below (kindOf src line) ≠ [] ∧
    r = { fields with
      location := Location.extract below (kindOf src line)
      packageId := src.packageId
      logPath := src.logPath
      line := ((i + 1 : Nat) : Int) }

/-- Line `i` gives a failure: it is a header whose fields cannot be read, or one whose fields can be read
above a line that is no header and carries no location. -/
def FailureAt (i : Nat) (f : Failure) : Prop :=
  ∃ line, lines[i]? = some line ∧ isHeader src line = true ∧
    ((∃ e, Header.extract line (kindOf src line) = .error e ∧ f = src.failure (i + 1) e.message) ∨
      ∃ below fields, Header.extract line (kindOf src line) = .ok fields ∧ lines[i + 1]? = some below ∧
        isHeader src below = false ∧ Location.extract below (kindOf src line) = [] ∧
        f = src.failure (i + 1) (missingLocation (kindOf src line)))

/-- Line `i` is a header that leaves no trace: its fields can be read, and another header or the end of
the log follows. -/
def DroppedAt (i : Nat) : Prop :=
  ∃ line fields, lines[i]? = some line ∧ isHeader src line = true ∧
    Header.extract line (kindOf src line) = .ok fields ∧
    ∀ below, lines[i + 1]? = some below → isHeader src below = true

theorem kind_of_extract {line : Text} {kind : Kind} {r : Record} (h : Header.extract line kind = .ok r) :
    r.kind = kind := by
  unfold Header.extract at h
  split at h
  · cases h; rfl
  · cases h

section Cases

variable {src lines} {i : Nat}

theorem verdictAt_of_line {line : Text} (h : lines[i]? = some line) :
    verdictAt src 1 lines i = verdict src (i + 1) line lines[i + 1]? := by
  simp [verdictAt, h, Nat.add_comm 1 i]

theorem isHeader_of_verdictAt {v : Verdict} (h : verdictAt src 1 lines i = some v) :
    ∃ line, lines[i]? = some line ∧ isHeader src line = true := by
  cases hline : lines[i]? with
  | none => simp [verdictAt, hline] at h
  | some line =>
    refine ⟨line, rfl, ?_⟩
    by_contra hh
    rw [verdictAt_of_line hline, verdict_of_noise src (by simpa using hh)] at h
    cases h

theorem verdictAt_of_recordAt {r : Record} (h : RecordAt src lines i r) :
    verdictAt src 1 lines i = some (.record r) := by
  obtain ⟨line, below, fields, hline, hbelow, hh, hok, hnoise, hloc, rfl⟩ := h
  rw [verdictAt_of_line hline]
  simp [verdict, hh, hok, hbelow, settle, hnoise, opened, kind_of_extract hok, hloc]

theorem verdictAt_of_failureAt {f : Failure} (h : FailureAt src lines i f) :
    verdictAt src 1 lines i = some (.failure f) := by
  obtain ⟨line, hline, hh, ⟨e, he, rfl⟩ | ⟨below, fields, hok, hbelow, hnoise, hloc, rfl⟩⟩ := h
  · rw [verdictAt_of_line hline]
    simp [verdict, hh, he]
  · rw [verdictAt_of_line hline]
    simp [verdict, hh, hok, hbelow, settle, hnoise, opened, kind_of_extract hok, hloc, Source.failure]

theorem verdictAt_of_droppedAt (h : DroppedAt src lines i) :
    verdictAt src 1 lines i = some .dropped := by
  obtain ⟨line, fields, hline, hh, hok, hnext⟩ := h
  rw [verdictAt_of_line hline]
  cases hbelow : lines[i + 1]? with
  | none => simp [verdict, hh, hok, settle]
  | some below => simp [verdict, hh, hok, settle, hnext below hbelow]

/-- **Every header is accounted for**: it gives a record, gives a failure or is dropped. -/
theorem accounted {line : Text} (hline : lines[i]? = some line) (hh : isHeader src line = true) :
    (∃ r, RecordAt src lines i r) ∨ (∃ f, FailureAt src lines i f) ∨ DroppedAt src lines i := by
  cases hx : Header.extract line (kindOf src line) with
  | error e => exact .inr (.inl ⟨_, line, hline, hh, .inl ⟨e, hx, rfl⟩⟩)
  | ok fields =>
    cases hbelow : lines[i + 1]? with
    | none => exact .inr (.inr ⟨line, fields, hline, hh, hx, by simp [hbelow]⟩)
    | some below =>
      cases hnext : isHeader src below with
      | true => exact .inr (.inr ⟨line, fields, hline, hh, hx, by simp [hbelow, hnext]⟩)
      | false =>
        by_cases hloc : Location.extract below (kindOf src line) = []
        · exact .inr (.inl ⟨_, line, hline, hh, .inr ⟨below, fields, hx, hbelow, hnext, hloc, rfl⟩⟩)
        · exact .inl ⟨_, line, below, fields, hline, hbelow, hh, hx, hnext, hloc, rfl⟩

theorem verdictAt_eq_record {r : Record} :
    verdictAt src 1 lines i = some (.record r) ↔ RecordAt src lines i r := by
  refine ⟨fun h => ?_, verdictAt_of_recordAt⟩
  obtain ⟨line, hline, hh⟩ := isHeader_of_verdictAt h
  rcases accounted hline hh with ⟨r', hr⟩ | ⟨f, hf⟩ | hd
  · have := (verdictAt_of_recordAt hr).symm.trans h
    simp only [Option.some.injEq, Verdict.record.injEq] at this
    exact this ▸ hr
  · simp [verdictAt_of_failureAt hf] at h
  · simp [verdictAt_of_droppedAt hd] at h

theorem verdictAt_eq_failure {f : Failure} :
    verdictAt src 1 lines i = some (.failure f) ↔ FailureAt src lines i f := by
  refine ⟨fun h => ?_, verdictAt_of_failureAt⟩
  obtain ⟨line, hline, hh⟩ := isHeader_of_verdictAt h
  rcases accounted hline hh with ⟨r, hr⟩ | ⟨f', hf⟩ | hd
  · simp [verdictAt_of_recordAt hr] at h
  · have := (verdictAt_of_failureAt hf).symm.trans h
    simp only [Option.some.injEq, Verdict.failure.injEq] at this
    exact this ▸ hf
  · simp [verdictAt_of_droppedAt hd] at h

theorem verdictAt_eq_dropped : verdictAt src 1 lines i = some .dropped ↔ DroppedAt src lines i := by
  refine ⟨fun h => ?_, verdictAt_of_droppedAt⟩
  obtain ⟨line, hline, hh⟩ := isHeader_of_verdictAt h
  rcases accounted hline hh with ⟨r, hr⟩ | ⟨f, hf⟩ | hd
  · simp [verdictAt_of_recordAt hr] at h
  · simp [verdictAt_of_failureAt hf] at h
  · exact hd

end Cases

instance : DecidablePred (DroppedAt src lines) := fun _ => decidable_of_iff _ verdictAt_eq_dropped

theorem mem_verdicts {v : Verdict} :
    v ∈ verdicts src 1 lines ↔ ∃ i, verdictAt src 1 lines i = some v := by
  simp only [verdicts, List.mem_filterMap, List.mem_range]
  constructor
  · rintro ⟨i, -, h⟩
    exact ⟨i, h⟩
  · rintro ⟨i, h⟩
    obtain ⟨line, hline, -⟩ := isHeader_of_verdictAt h
    exact ⟨i, (List.getElem?_eq_some_iff.1 hline).1, h⟩

theorem length_verdicts (lines : List Text) :
    ∀ first, (verdicts src first lines).length = lines.countP (isHeader src) := by
  induction lines with
  | nil => intro first; rfl
  | cons line lines ih =>
    intro first
    rw [verdicts_cons, List.length_append, ih, List.countP_cons, Nat.add_comm]
    congr 1
    cases hh : isHeader src line with
    | false => simp [verdict, hh]
    | true => cases hx : Header.extract line (kindOf src line) <;> simp [verdict, hh, hx]

/-- Verdicts are records, failures and drops. -/
theorem length_eq_sum (vs : List Verdict) :
    vs.length = (vs.filterMap Verdict.record?).length + (vs.filterMap Verdict.failure?).length +
      vs.countP (· == .dropped) := by
  induction vs with
  | nil => rfl
  | cons v vs ih =>
    cases v with
    | record r => simp [List.filterMap_cons, ih]; omega
    | failure f => simp [List.filterMap_cons, ih]; omega
    | dropped => simp [List.filterMap_cons, ih]; omega

end Positions

/-- **A scan by positions.** The records and the failures of a scan are those of its lines, in the order of
the lines, and every header is counted once: as a record, as a failure or as dropped. -/
structure Positional (src : Source) (lines : List Text) (scan : Scan) : Prop where
  packageId : scan.packageId = src.packageId
  logPath : scan.logPath = src.logPath
  mem_records : ∀ r, r ∈ scan.records ↔ ∃ i, RecordAt src lines i r
  records_increasing : scan.records.Pairwise fun a b => a.line < b.line
  mem_failures : ∀ f, f ∈ scan.failures ↔ ∃ i, FailureAt src lines i f
  failures_increasing : scan.failures.Pairwise fun a b => a.line < b.line
  lines_eq : scan.lines = lines.length
  headers_eq : scan.headers = lines.countP (isHeader src)
  accounted : scan.headers = scan.records.length + scan.failures.length +
    (List.range lines.length).countP (fun i => decide (DroppedAt src lines i))

section Lines

variable (src : Source) (lines : List Text)

theorem records_ofLines :
    (ofLines src lines).records = (verdicts src 1 lines).filterMap Verdict.record? := by
  rw [ofLines_eq]
  simp [forecast, outlook]

theorem failures_ofLines :
    (ofLines src lines).failures = (verdicts src 1 lines).filterMap Verdict.failure? := by
  rw [ofLines_eq]
  simp [forecast, outlook]

theorem mem_records_ofLines (r : Record) : r ∈ (ofLines src lines).records ↔ ∃ i, RecordAt src lines i r := by
  simp only [records_ofLines, List.mem_filterMap, Verdict.record?_eq_some, mem_verdicts, ← verdictAt_eq_record,
    exists_eq_right]

theorem mem_failures_ofLines (f : Failure) : f ∈ (ofLines src lines).failures ↔ ∃ i, FailureAt src lines i f := by
  simp only [failures_ofLines, List.mem_filterMap, Verdict.failure?_eq_some, mem_verdicts, ← verdictAt_eq_failure,
    exists_eq_right]

variable {src lines} in
theorem RecordAt.line_eq {i : Nat} {r : Record} (h : RecordAt src lines i r) : r.line = ((i + 1 : Nat) : Int) := by
  obtain ⟨line, below, fields, -, -, -, -, -, -, rfl⟩ := h
  rfl

variable {src lines} in
theorem FailureAt.line_eq {i : Nat} {f : Failure} (h : FailureAt src lines i f) :
    f.line = ((i + 1 : Nat) : Int) := by
  obtain ⟨line, -, -, ⟨e, -, rfl⟩ | ⟨below, fields, -, -, -, -, rfl⟩⟩ := h <;> rfl

variable {src lines} in
/-- A record needs the line below its header. -/
theorem line_lt_of_mem_records {r : Record} (h : r ∈ (ofLines src lines).records) :
    1 ≤ r.line ∧ r.line < lines.length := by
  obtain ⟨i, hat⟩ := (mem_records_ofLines src lines r).1 h
  have hline := hat.line_eq
  obtain ⟨line, below, fields, -, hbelow, -⟩ := hat
  have hlt := (List.getElem?_eq_some_iff.1 hbelow).1
  omega

variable {src lines} in
theorem line_le_of_mem_failures {f : Failure} (h : f ∈ (ofLines src lines).failures) :
    1 ≤ f.line ∧ f.line ≤ lines.length := by
  obtain ⟨i, hat⟩ := (mem_failures_ofLines src lines f).1 h
  have hline := hat.line_eq
  obtain ⟨line, hsome, -⟩ := hat
  have hlt := (List.getElem?_eq_some_iff.1 hsome).1
  omega

/-- What is read off the verdicts in the order of the lines is in the order of the line numbers. -/
theorem filterMap_verdicts_increasing {α : Type} {f : Verdict → Option α} {number : α → Int}
    (h : ∀ i v a, verdictAt src 1 lines i = some v → f v = some a → number a = ((i + 1 : Nat) : Int)) :
    ((verdicts src 1 lines).filterMap f).Pairwise fun a b => number a < number b := by
  rw [verdicts, List.filterMap_filterMap, List.pairwise_filterMap]
  refine List.pairwise_lt_range.imp fun {i j} hij a ha b hb => ?_
  obtain ⟨v, hv, hva⟩ := Option.bind_eq_some_iff.1 ha
  obtain ⟨w, hw, hwb⟩ := Option.bind_eq_some_iff.1 hb
  rw [h i v a hv hva, h j w b hw hwb]
  omega

theorem records_ofLines_increasing : (ofLines src lines).records.Pairwise fun a b => a.line < b.line := by
  rw [records_ofLines]
  refine filterMap_verdicts_increasing src lines fun i v r hv hr => ?_
  rw [Verdict.record?_eq_some.1 hr] at hv
  exact (verdictAt_eq_record.1 hv).line_eq

theorem failures_ofLines_increasing : (ofLines src lines).failures.Pairwise fun a b => a.line < b.line := by
  rw [failures_ofLines]
  refine filterMap_verdicts_increasing src lines fun i v f hv hf => ?_
  rw [Verdict.failure?_eq_some.1 hf] at hv
  exact (verdictAt_eq_failure.1 hv).line_eq

theorem countP_dropped :
    (verdicts src 1 lines).countP (· == .dropped) =
      (List.range lines.length).countP (fun i => decide (DroppedAt src lines i)) := by
  rw [verdicts, List.countP_filterMap]
  refine List.countP_congr fun i _ => ?_
  simp only [decide_eq_true_eq, ← verdictAt_eq_dropped]
  cases verdictAt src 1 lines i <;> simp

/-- The scan of some lines, position by position. -/
theorem positional_ofLines : Positional src lines (ofLines src lines) where
  packageId := rfl
  logPath := rfl
  mem_records := mem_records_ofLines src lines
  records_increasing := records_ofLines_increasing src lines
  mem_failures := mem_failures_ofLines src lines
  failures_increasing := failures_ofLines_increasing src lines
  lines_eq := by rw [ofLines_eq]; simp [forecast]
  headers_eq := by rw [ofLines_eq]; simp [forecast]
  accounted := by
    have hheaders : (ofLines src lines).headers = (verdicts src 1 lines).length := by
      rw [ofLines_eq, length_verdicts]
      simp [forecast]
    rw [hheaders, length_eq_sum, records_ofLines, failures_ofLines, countP_dropped]

end Lines

/-- A content without over-long lines is scanned to its end. -/
theorem ofContent_of_fits (src : Source) {content : Text}
    (h : ∀ line ∈ Lines.raw content, line.length < Lines.wide) :
    ofContent src content = (ofLines src ((Lines.raw content).map Lines.dropReturn), none) := by
  have hread := Lines.read_of_fits (by decide) h
  simp [ofContent, hread]

end Scan

end CastAudit
