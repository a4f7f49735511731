import CastAudit.Proofs.Scan.LineEndings

/-!
# Over-long lines

A line that reaches the limit stops a scan. What was captured from the lines above it is kept, the line itself is told
as a failure, and nothing below it is looked at.

* `FirstLong content before` — the first over-long line of a content stands directly below the lines `before`, and
  `linesRead content` — the lines that a scan reads;
* `StoppedBelow src before result` — what a scan that was stopped there gives: the scan of the lines `before` alone and
  one failure. A header that still waits for its location there leaves no trace;
* `ofContent_overlong` — a scan is stopped exactly if some line is over-long, and then below the lines above the first.
-/

namespace CastAudit.Scan

/-! ## the first over-long line -/

/-- The first over-long line of a content stands directly below the lines `before`. -/
structure FirstLong (content : Text) (before : List Text) : Prop where
  short : ∀ line ∈ before, line.length < Lines.wide
  long : ∃ line after, Lines.raw content = before ++ line :: after ∧ Lines.wide ≤ line.length

/-- The lines that a scan reads: all of them, or those above the first over-long one. -/
def linesRead (content : Text) : List Text := (Lines.raw content).takeWhile (Lines.fits Lines.wide)

theorem linesRead_isPrefix (content : Text) : linesRead content <+: Lines.raw content := List.takeWhile_prefix _

theorem linesRead_of_fits {content : Text} (h : ∀ line ∈ Lines.raw content, line.length < Lines.wide) :
    linesRead content = Lines.raw content := by
  rw [linesRead, List.takeWhile_eq_self_iff]
  intro line hline
  simpa [Lines.fits] using h line hline

theorem firstLong_linesRead {content : Text} (h : ∃ line ∈ Lines.raw content, Lines.wide ≤ line.length) :
    FirstLong content (linesRead content) := by
  obtain ⟨line, hline, hlong⟩ := h
  have hsome : (Lines.raw content).dropWhile (Lines.fits Lines.wide) ≠ [] := by
    intro hnil
    have hfits := List.dropWhile_eq_nil_iff.1 hnil line hline
    simp only [Lines.fits, decide_eq_true_eq] at hfits
    omega
  obtain ⟨first, after, hdrop⟩ := List.exists_cons_of_ne_nil hsome
  refine ⟨fun line hline => ?_, first, after, ?_, ?_⟩
  · simpa [Lines.fits] using List.mem_takeWhile_imp hline
  · rw [← hdrop, linesRead, List.takeWhile_append_dropWhile]
  · have hfirst := List.head?_dropWhile_not (Lines.fits Lines.wide) (Lines.raw content)
    rw [hdrop] at hfirst
    simpa [Lines.fits] using hfirst

namespace FirstLong

variable {content : Text} {before : List Text} (h : FirstLong content before)
include h

theorem lf_not_mem : ∀ line ∈ before, Text.lf ∉ line := by
  obtain ⟨long, after, hraw, -⟩ := h.long
  exact fun line hline => Lines.no_lf_of_mem_raw (by rw [hraw]; exact List.mem_append_left _ hline)

/-- The lines above the over-long one are the beginning of the content. -/
theorem unlines_isPrefix : Text.unlines before <+: content := by
  obtain ⟨long, after, hraw, -⟩ := h.long
  obtain ⟨rest, rfl, -⟩ := Lines.exists_append_of_raw (by simp) hraw
  exact List.prefix_append ..

/-- Reading ends below the lines above the over-long one. -/
theorem read_eq : Lines.read Lines.wide content = ⟨before.map Lines.dropReturn, true⟩ := by
  obtain ⟨long, after, hraw, hlong⟩ := h.long
  have hfits : ∀ line ∈ before, Lines.fits Lines.wide line = true := fun line hline => by
    simpa [Lines.fits] using h.short line hline
  have hstop : Lines.fits Lines.wide long = false := by simpa [Lines.fits] using hlong
  have htake : (before ++ long :: after).takeWhile (Lines.fits Lines.wide) = before := by
    rw [List.takeWhile_append_of_pos hfits, List.takeWhile_cons_of_neg (by simp [hstop]), List.append_nil]
  have hall : (before ++ long :: after).all (Lines.fits Lines.wide) = false := by
    simp [hstop]
  rw [Lines.read_eq (by decide), hraw, htake, hall]
  rfl

end FirstLong

/-! ## the stopped scan -/

/-- The failure that an over-long line leaves below `count` lines. -/
def longFailure (src : Source) (count : Nat) : Failure := src.failure (count + 1) "line exceeds maximum length"

theorem ofContent_of_firstLong (src : Source) {content : Text} {before : List Text} (h : FirstLong content before) :
    ofContent src content =
      ({ ofLines src before with failures := (ofLines src before).failures ++ [longFailure src before.length] },
        some (.scan src.logPath .lineTooLong (some .longLine))) := by
  have hlines := (positional_ofLines src before).lines_eq
  simp only [ofContent, h.read_eq, if_true, stopped, ofLines_dropReturn, hlines]
  rfl

/-- The lines above the over-long one are scanned to their end when they stand alone. -/
theorem ofContent_unlines (src : Source) {before : List Text} (hshort : ∀ line ∈ before, line.length < Lines.wide)
    (hlf : ∀ line ∈ before, Text.lf ∉ line) : ofContent src (Text.unlines before) = (ofLines src before, none) := by
  have hraw := Lines.raw_unlines hlf
  rw [ofContent_of_fits src (by rwa [hraw]), hraw, ofLines_dropReturn]

/-- A header on the last line whose fields can be read gives no failure. -/
theorem line_ne_of_mem_failures {src : Source} {lines : List Text} {last : Text} {fields : Record}
    (hlast : lines.getLast? = some last) (hfields : Header.extract last (kindOf src last) = .ok fields) {f : Failure}
    (h : f ∈ (ofLines src lines).failures) : f.line ≠ lines.length := by
  intro hend
  obtain ⟨i, hat⟩ := (mem_failures_ofLines src lines f).1 h
  have hline := hat.line_eq
  have hi : i + 1 = lines.length := by omega
  obtain ⟨line, hsome, -, ⟨e, herror, -⟩ | ⟨below, fields', -, hbelow, -⟩⟩ := hat
  · rw [List.getLast?_eq_getElem?, show lines.length - 1 = i by omega, hsome] at hlast
    cases hlast
    rw [hfields] at herror
    cases herror
  · have := (List.getElem?_eq_some_iff.1 hbelow).1
    omega

/-- **What a scan gives that an over-long line stopped below the lines `before`.** -/
structure StoppedBelow (src : Source) (before : List Text) (result : Scan × Option Fault) : Prop where
  packageId : result.1.packageId = src.packageId
  logPath : result.1.logPath = src.logPath
  fault : ∃ problem, result.2 = some (.scan src.logPath problem (some .longLine)) ∧
    problem.message = "line exceeds maximum length"
  /-- Without what follows them, the lines above are scanned to their end. -/
  alone : (ofContent src (Text.unlines before)).2 = none
  records : result.1.records = (ofContent src (Text.unlines before)).1.records
  lines : result.1.lines = (ofContent src (Text.unlines before)).1.lines ∧ result.1.lines = before.length
  headers : result.1.headers = (ofContent src (Text.unlines before)).1.headers
  failures : result.1.failures = (ofContent src (Text.unlines before)).1.failures ++ [longFailure src before.length]
  /-- A header directly above the over-long line leaves neither a record nor a failure. -/
  unsettled : ∀ last fields, before.getLast? = some last → isHeader src last = true →
    Header.extract last (kindOf src last) = .ok fields →
    (∀ r ∈ result.1.records, r.line ≠ before.length) ∧ ∀ f ∈ result.1.failures, f.line ≠ before.length
  /-- Nothing is told of the lines below the over-long one. -/
  within : (∀ r ∈ result.1.records, r.line < before.length) ∧ ∀ f ∈ result.1.failures, f.line ≤ before.length + 1

theorem stoppedBelow_of_firstLong (src : Source) {content : Text} {before : List Text} (h : FirstLong content before) :
    StoppedBelow src before (ofContent src content) := by
  have halone := ofContent_unlines src h.short h.lf_not_mem
  have hfailures : ∀ f ∈ (ofLines src before).failures ++ [longFailure src before.length],
      f ∈ (ofLines src before).failures ∨ f.line = before.length + 1 := by
    intro f hf
    rcases List.mem_append.1 hf with hf | hf
    · exact .inl hf
    · rw [List.mem_singleton.1 hf]
      exact .inr rfl
  rw [ofContent_of_firstLong src h]
  refine ⟨rfl, rfl, ⟨_, rfl, rfl⟩, by rw [halone], by rw [halone], ?_, by rw [halone], by rw [halone], ?_, ?_, ?_⟩
  · rw [halone]
    exact ⟨rfl, (positional_ofLines src before).lines_eq⟩
  · intro last fields hlast _ hfields
    refine ⟨fun r hr => ?_, fun f hf => ?_⟩
    · have := line_lt_of_mem_records hr
      omega
    · rcases hfailures f hf with hf | hf
      · exact line_ne_of_mem_failures hlast hfields hf
      · omega
  · exact fun r hr => (line_lt_of_mem_records hr).2
  · intro f hf
    rcases hfailures f hf with hf | hf
    · have := line_le_of_mem_failures hf
      omega
    · omega

/-- **An over-long line stops a scan, which keeps what precedes it.** A scan fails exactly if some line of the content is
over-long. The lines above the first such line are the beginning of the content, and the scan gives what they give alone
and one failure more. -/
theorem ofContent_overlong (src : Source) (content : Text) :
    ((ofContent src content).2.isSome = true ↔ ∃ line ∈ Lines.raw content, Lines.wide ≤ line.length) ∧
    ∀ before, FirstLong content before →
      Text.unlines before <+: content ∧ StoppedBelow src before (ofContent src content) := by
  refine ⟨⟨fun hfault => ?_, fun hlong => ?_⟩, fun before h => ⟨h.unlines_isPrefix, stoppedBelow_of_firstLong src h⟩⟩
  · by_contra hnone
    push Not at hnone
    rw [ofContent_of_fits src hnone] at hfault
    cases hfault
  · rw [ofContent_of_firstLong src (firstLong_linesRead hlong)]
    rfl

/-- A finding, a header that cannot be read and one that waits for its location, above a line that just reaches the
limit and a finding below it. -/
theorem ofContent_overlong_waiting :
    let src : Source := ⟨"demo-0.1.0", "demo-0.1.0/cast.log", [.cast]⟩
    let before : List Text := ["warning: Here is cast(a>A>B=>mut>L)", "  --> src/a.rs:1:1", "warning: Here is cast(broken)",
      "warning: Here is cast(b>C>D=>mut>L)"]
    let content := Text.unlines before ++ (List.replicate Lines.wide 0x78 ++
      Text.lf :: Text.unlines ["warning: Here is cast(c>C>D=>mut>L)", "  --> src/c.rs:3:3"])
    FirstLong content before ∧ (ofContent src content).2.isSome = true ∧ (ofContent src content).1.lines = 4 ∧
      (ofContent src content).1.failures.map Failure.line = [3, 5] ∧
      (ofContent src content).1.records.map Record.line = [1] := by
  intro src before content
  have hlf : Text.lf ∉ List.replicate Lines.wide (0x78 : UInt8) := fun h => absurd (List.eq_of_mem_replicate h) (by decide)
  have hraw : Lines.raw content = before ++ List.replicate Lines.wide 0x78 ::
      Lines.raw (Text.unlines ["warning: Here is cast(c>C>D=>mut>L)", "  --> src/c.rs:3:3"]) := by
    rw [Lines.raw_unlines_append (by decide +kernel), Lines.raw_append_lf hlf]
  have hfirst : FirstLong content before :=
    ⟨by decide +kernel, _, _, hraw, by rw [List.length_replicate]⟩
  obtain ⟨hiff, hstopped⟩ := ofContent_overlong src content
  obtain ⟨-, h⟩ := hstopped before hfirst
  have hrecords : (ofContent src (Text.unlines before)).1.records.map Record.line = [1] := by decide +kernel
  have hfailures : (ofContent src (Text.unlines before)).1.failures.map Failure.line = [3] := by decide +kernel
  have hlong : ∃ line ∈ Lines.raw content, Lines.wide ≤ line.length :=
    ⟨List.replicate Lines.wide 0x78, by rw [hraw]; simp, by rw [List.length_replicate]⟩
  refine ⟨hfirst, hiff.2 hlong, h.lines.2, ?_, ?_⟩
  · rw [h.failures, List.map_append, hfailures]
    rfl
  · rw [h.records, hrecords]

end CastAudit.Scan
