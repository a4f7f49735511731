import CastAudit.Proofs.Header.Grammar
import CastAudit.Proofs.Scan.Fields
import CastAudit.Proofs.Text.Validity

/-!
# Records are well formed

A log may hold any bytes. What a scan captures from it is clean nevertheless: fields are cut out of a valid line at ASCII
characters, a location is repaired before it is trimmed.

* `Text.Tidy x` — a valid text without white space at its ends, `Text.Neat x` — a tidy text on one line;
* `Record.Shaped r` — the fields of a record are those of its kind, and separators of a header stand where they may;
* `Header.Reads.shaped`, `Header.Reads.tidy` — so it is for what reads as a header;
* `Record.WellFormed src count r` — a record of a scan that read `count` lines;
* `ofContent_wellFormed` — all records of a scan are well formed, and no two are of one line.
-/

namespace CastAudit

namespace Text

/-- A valid text without white space at its ends. -/
structure Tidy (x : Text) : Prop where
  valid : Text.valid x = true
  bare : Text.Bare x

/-- A tidy text on one line. -/
structure Neat (x : Text) : Prop extends x.Tidy where
  oneLine : lf ∉ x

theorem tidy_nil : Tidy [] := ⟨rfl, bare_nil⟩

theorem tidy_trim {x : Text} (h : valid x = true) : Tidy (trim x) := ⟨valid_trim h, bare_trim x⟩

end Text

/-! ## headers -/

/-- The fields of a record are those of its kind, and hold separators only where the kind allows them. -/
structure Record.Shaped (r : Record) : Prop where
  caller_ne_nil : r.caller ≠ []
  conversion : r.kind.isConversion = true →
    0x3e ∉ r.caller ∧ 0x3e ∉ r.fromType ∧ 0x3e ∉ r.toType ∧ 0x3e ∉ r.mutability
  transmute : r.kind = .transmute → r.mutability = []
  cast : r.kind = .cast → r.note.count 0x3e ≤ 1
  bug : r.kind.isBug = true →
    r.fromType = [] ∧ r.toType = [] ∧ r.mutability = [] ∧ r.note = [] ∧ 0x60 ∉ r.caller

namespace Header

theorem ascii_of_marker : ∀ k ∈ Kind.recognized, ∀ b ∈ (k.marker?).getD [], b < 0x80 := by decide +kernel

theorem valid_behind_marker {kind : Kind} {marker rest : Text} (hmarker : kind.marker? = some marker)
    (h : Text.valid (marker ++ rest) = true) : Text.valid rest = true := by
  have hascii := ascii_of_marker kind (mem_recognized_iff.2 (by rw [hmarker]; rfl))
  rw [hmarker, Option.getD_some] at hascii
  rwa [Text.valid_of_ascii_append hascii] at h

theorem startsFresh_of_blanks {blanks : Text} (h : ∀ b ∈ blanks, Text.isLineBlank b = true) :
    Text.StartsFresh blanks := by
  intro b hb
  have hblank := h b (List.mem_of_mem_head? hb)
  simp only [Text.isLineBlank, Bool.or_eq_true, decide_eq_true_eq] at hblank
  rcases hblank with ((rfl | rfl) | rfl) | rfl <;> decide

theorem IsPayload.valid {rest p : Text} (h : IsPayload rest p) (hvalid : Text.valid rest = true) :
    Text.valid p = true := by
  obtain ⟨blanks, hblanks, rfl | ⟨rfl, -⟩⟩ := h
  · have hclose : p ++ ")" ++ blanks = p ++ 0x29 :: blanks := by
      rw [show (")" : Text) = [0x29] by decide, List.append_assoc]
      rfl
    rw [hclose, Text.valid_append_ascii (by decide), Bool.and_eq_true] at hvalid
    exact hvalid.1
  · rw [Text.valid_append p (startsFresh_of_blanks hblanks), Bool.and_eq_true] at hvalid
    exact hvalid.1

section Conversions

variable {p caller fromType toType result mutability note : Text}

theorem tidy_callerOf {segment : Text} (h : Text.valid segment = true) : Text.Tidy (callerOf segment) :=
  Text.tidy_trim (Text.valid_chopPrefix (by decide +kernel) (Text.valid_trim h))

theorem IsConversion.no_angle (h : IsConversion p caller fromType toType result) :
    0x3e ∉ callerOf caller ∧ 0x3e ∉ Text.trim fromType ∧ 0x3e ∉ Text.trim toType := by
  have hcount := h.segments
  simp only [angle_eq, List.count_append, List.count_singleton_self] at hcount
  have hcaller := (callerOf_sublist caller).count_le 0x3e
  have hfrom := (Text.trim_sublist fromType).count_le 0x3e
  have hto := (Text.trim_sublist toType).count_le 0x3e
  simp only [← List.count_eq_zero]
  omega

/-- The fields before the `=>` are tidy, and the text behind it is valid. -/
theorem IsConversion.tidy (h : IsConversion p caller fromType toType result) (hvalid : Text.valid p = true) :
    Text.Tidy (callerOf caller) ∧ Text.Tidy (Text.trim fromType) ∧ Text.Tidy (Text.trim toType) ∧
      Text.valid result = true := by
  have htext : p = caller ++ 0x3e :: (fromType ++ 0x3e :: (toType ++ 0x3d :: 0x3e :: result)) := by
    simp [h.text, angle_eq, sides_eq_pair]
  rw [htext, Text.valid_append_ascii (by decide), Text.valid_append_ascii (by decide),
    Text.valid_append_ascii (by decide), Text.valid_ascii (by decide)] at hvalid
  simp only [Bool.and_eq_true] at hvalid
  obtain ⟨hcaller, hfrom, hto, hresult⟩ := hvalid
  exact ⟨tidy_callerOf hcaller, Text.tidy_trim hfrom, Text.tidy_trim hto, hresult⟩

theorem IsResult.tidy (h : IsResult result mutability note) (hvalid : Text.valid result = true) :
    Text.Tidy mutability ∧ Text.Tidy note := by
  cases h with
  | plain _ =>
    rw [angle_eq, List.append_assoc, List.singleton_append, Text.valid_append_ascii (by decide),
      Bool.and_eq_true] at hvalid
    exact ⟨Text.tidy_trim hvalid.1, Text.tidy_trim hvalid.2⟩
  | @parted mutability a b _ =>
    have htext : mutability ++ ">" ++ a ++ ">" ++ b = mutability ++ 0x3e :: (a ++ 0x3e :: b) := by simp [angle_eq]
    rw [htext, Text.valid_append_ascii (by decide), Text.valid_append_ascii (by decide)] at hvalid
    simp only [Bool.and_eq_true] at hvalid
    have ha := Text.tidy_trim hvalid.2.1
    have hb := Text.tidy_trim hvalid.2.2
    rw [angle_eq, List.append_assoc, List.singleton_append]
    refine ⟨Text.tidy_trim hvalid.1, ?_, ha.bare.append hb.bare (by decide) (by decide)⟩
    rw [Text.valid_append_ascii (by decide), ha.valid, hb.valid]
    rfl

theorem IsResult.angles (h : IsResult result mutability note) : 0x3e ∉ mutability ∧ note.count 0x3e ≤ 1 := by
  have htrim (s : Text) : (Text.trim s).count 0x3e ≤ s.count 0x3e := (Text.trim_sublist s).count_le _
  cases h with
  | @plain mutability note hone =>
    simp only [angle_eq, List.count_append, List.count_singleton_self] at hone
    have := htrim mutability
    have := htrim note
    rw [← List.count_eq_zero]
    omega
  | @parted mutability a b htwo =>
    simp only [angle_eq, List.count_append, List.count_singleton_self] at htwo ⊢
    have := htrim mutability
    have := htrim a
    have := htrim b
    rw [← List.count_eq_zero]
    omega

end Conversions

section Reads

variable {line : Text} {kind : Kind} {r : Record}

/-- **What reads as a header is shaped as its kind.** -/
theorem Reads.shaped (h : Reads line kind r) : r.Shaped := by
  cases h with
  | cast _ _ _ hconversion hresult =>
    obtain ⟨hcaller, hfrom, hto⟩ := hconversion.no_angle
    obtain ⟨hmutability, hnote⟩ := hresult.angles
    -- fields are projected out first, as comparing texts by definition would open `Text.trim`
    constructor <;> dsimp only
    case caller_ne_nil => exact hconversion.named
    case conversion => exact fun _ => ⟨hcaller, hfrom, hto, hmutability⟩
    case cast => exact fun _ => hnote
    case transmute | bug => simp [Kind.isBug]
  | transmute _ _ _ hconversion =>
    obtain ⟨hcaller, hfrom, hto⟩ := hconversion.no_angle
    constructor <;> dsimp only
    case caller_ne_nil => exact hconversion.named
    case conversion => exact fun _ => ⟨hcaller, hfrom, hto, List.not_mem_nil⟩
    case transmute => exact fun _ => rfl
    case cast | bug => simp [Kind.isBug]
  | @bug _ _ _ _ caller _ hbug _ _ _ _ hsecond hnamed =>
    have hother : kind.isConversion = false ∧ kind ≠ .transmute ∧ kind ≠ .cast := by
      cases kind with
      | none | cast | transmute | other => simp [Kind.isBug] at hbug
      | brokenLayout | uninitExposure | brokenBitPatterns => decide
    have hcaller : 0x60 ∉ Text.trim caller := fun hmem => hsecond ((Text.trim_sublist caller).mem hmem)
    constructor <;> dsimp only
    case caller_ne_nil => exact hnamed
    case bug => exact fun _ => ⟨rfl, rfl, rfl, rfl, hcaller⟩
    case conversion | transmute | cast => simp [hother]

/-- **Fields of a valid header are tidy.** -/
theorem Reads.tidy (h : Reads line kind r) (hvalid : Text.valid line = true) :
    ∀ x ∈ [r.caller, r.fromType, r.toType, r.mutability, r.note], Text.Tidy x := by
  cases h with
  | cast hmarker htext hpayload hconversion hresult =>
    obtain ⟨hcaller, hfrom, hto, hright⟩ :=
      hconversion.tidy (hpayload.valid (valid_behind_marker hmarker (htext ▸ hvalid)))
    obtain ⟨hmutability, hnote⟩ := hresult.tidy hright
    simp only [List.forall_mem_cons]
    exact ⟨hcaller, hfrom, hto, hmutability, hnote, by simp⟩
  | transmute hmarker htext hpayload hconversion =>
    obtain ⟨hcaller, hfrom, hto, hright⟩ :=
      hconversion.tidy (hpayload.valid (valid_behind_marker hmarker (htext ▸ hvalid)))
    simp only [List.forall_mem_cons]
    exact ⟨hcaller, hfrom, hto, Text.tidy_nil, Text.tidy_trim hright, by simp⟩
  | @bug _ _ _ before caller after _ _ _ htext =>
    have htick : line = before ++ 0x60 :: (caller ++ 0x60 :: after) := by
      rw [htext, show ("`" : Text) = [0x60] by decide]
      simp
    rw [htick, Text.valid_append_ascii (by decide), Text.valid_append_ascii (by decide)] at hvalid
    simp only [Bool.and_eq_true] at hvalid
    simp only [List.forall_mem_cons]
    exact ⟨Text.tidy_trim hvalid.2.1, Text.tidy_nil, Text.tidy_nil, Text.tidy_nil, Text.tidy_nil, by simp⟩

end Reads

end Header

/-- **A location is tidy**, whatever bytes its line holds. -/
theorem Location.extract_tidy (line : Text) (kind : Kind) : Text.Tidy (Location.extract line kind) := by
  have htidy (s : Text) : Text.Tidy (tidy s) := Text.tidy_trim (Text.valid_repair s)
  unfold extract
  simp only
  split
  · exact Text.tidy_nil
  · split
    · split
      · exact htidy _
      · exact htidy _
    · exact htidy _

/-! ## records -/

/-- **A well-formed record** of a scan that read `count` lines. -/
structure Record.WellFormed (src : Scan.Source) (count : Nat) (r : Record) : Prop extends r.Shaped where
  kind_recognized : r.kind ∈ Kind.recognized
  kind_wanted : src.kinds = [] ∨ r.kind ∈ src.kinds
  packageId : r.packageId = src.packageId
  logPath : r.logPath = src.logPath
  line : 1 ≤ r.line ∧ r.line < count
  location_ne_nil : r.location ≠ []
  texts : ∀ x ∈ [r.caller, r.fromType, r.toType, r.mutability, r.note, r.location], Text.Neat x

namespace Scan

theorem wellFormed_of_mem_records {src : Source} {content : Text} {r : Record}
    (hr : r ∈ (ofContent src content).1.records) : r.WellFormed src (ofContent src content).1.lines := by
  obtain ⟨hpackage, hpath, htexts⟩ := texts_of_mem_records hr
  obtain ⟨lines, -, -, hrecords, hcount, -⟩ := exists_lines src content
  rw [hrecords] at hr
  have hline := line_lt_of_mem_records hr
  -- the fields are those of a header line, which is valid, and only the location is of the line below it
  obtain ⟨i, line, below, fields, -, -, hheader, hextract, -, hlocation, rfl⟩ := (mem_records_ofLines src lines r).1 hr
  have hkind : kindOf src line ≠ .none := by simpa [isHeader] using hheader
  obtain ⟨hvalid, hwanted, -⟩ := (Header.classify_eq_iff hkind).1 rfl
  have hreads := Header.extract_iff_reads.1 hextract
  have hfields := hreads.tidy hvalid
  have hshaped := hreads.shaped
  have hof : fields.kind = kindOf src line := kind_of_extract hextract
  refine ⟨⟨hshaped.caller_ne_nil, hshaped.conversion, hshaped.transmute, hshaped.cast, hshaped.bug⟩, ?_, ?_, rfl, rfl, ?_,
    hlocation, ?_⟩
  · simpa [hof] using Header.mem_recognized_of_classify hkind
  · simpa [hof, Header.wanted] using hwanted
  · rw [hcount]
    exact hline
  · simp only [List.forall_mem_cons] at hfields htexts ⊢
    obtain ⟨hcaller, hfrom, hto, hmutability, hnote, -⟩ := hfields
    obtain ⟨lcaller, lfrom, lto, lmutability, lnote, llocation, -⟩ := htexts
    exact ⟨⟨hcaller, lcaller.1⟩, ⟨hfrom, lfrom.1⟩, ⟨hto, lto.1⟩, ⟨hmutability, lmutability.1⟩, ⟨hnote, lnote.1⟩,
      ⟨Location.extract_tidy below (kindOf src line), llocation.1⟩, by simp⟩

/-- **Every record of a scan is well formed**, whatever bytes the log holds, and no two records are of one line. -/
theorem ofContent_wellFormed (src : Source) (content : Text) :
    (∀ r ∈ (ofContent src content).1.records, r.WellFormed src (ofContent src content).1.lines) ∧
      ((ofContent src content).1.records.map Record.line).Nodup := by
  refine ⟨fun r hr => wellFormed_of_mem_records hr, ?_⟩
  obtain ⟨lines, -, -, hrecords, -⟩ := exists_lines src content
  rw [hrecords, List.Nodup, List.pairwise_map]
  exact (records_ofLines_increasing src lines).imp fun hlt => Int.ne_of_lt hlt

/-- A note of two parts with an empty second one, and a location cut out of the middle of a character. -/
theorem ofContent_wellFormed_stray :
    let src : Source := ⟨"demo-0.1.0", "demo-0.1.0/lint.log", []⟩
    let content : Text := Text.unlines ["warning: Here is cast( fn  f > *const T >U=> mut > a> ) ",
      [0x2d, 0x2d, 0x3e, 0xa9, 0xff, 0x20, 0x78, 0xe2, 0x82, 0x20]]
    let r : Record :=
      { kind := .cast, packageId := "demo-0.1.0", caller := "f", fromType := "*const T", toType := "U", mutability := "mut",
        note := "a>", location := Text.replacement ++ " x" ++ Text.replacement, logPath := "demo-0.1.0/lint.log", line := 1 }
    r ∈ (ofContent src content).1.records ∧ r.WellFormed src (ofContent src content).1.lines := by
  intro src content r
  have hrecords : (ofContent src content).1.records = [r] := by decide +kernel
  have hr : r ∈ (ofContent src content).1.records := by
    rw [hrecords]
    exact List.mem_singleton_self r
  exact ⟨hr, (ofContent_wellFormed src content).1 r hr⟩

end Scan

end CastAudit
