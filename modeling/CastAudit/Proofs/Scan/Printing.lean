import CastAudit.Proofs.Scan.LineEndings

/-!
# Scanning undoes printing

The tools print a finding as a header line with the line of its source location directly below it, among
lines that are of no interest. `Finding.header` and `Finding.continuation` are those two lines.

* `Finding.Printable` — what the fields of a finding must be for its lines to be read back. Segments of a
  conversion hold no `>`, and one that stands before a `>` does not end in `=`, since `=>` separates the two
  sides of a conversion;
* `extract_header`, `extract_continuation` — the two lines give the fields and the location back;
* `ofContent_log` — the scan of a log that holds findings and other lines has exactly those findings.
-/

namespace CastAudit.Scan

/-! ## printing -/

/-- A finding as the tools print it. -/
inductive Finding where
  | cast (caller fromType toType mutability note location : Text)
  | transmute (caller fromType toType note location : Text)
  /-- A bug report with the text around its caller. -/
  | bug (kind : Kind) (before caller after location : Text)
deriving Repr, DecidableEq

namespace Finding

/-- The kind of a finding. -/
def kind : Finding → Kind
  | cast .. => .cast
  | transmute .. => .transmute
  | bug kind .. => kind

/-- The header line. -/
def header : Finding → Text
  | cast caller fromType toType mutability note _ =>
    "warning: Here is cast(fn " ++ caller ++ ">" ++ fromType ++ ">" ++ toType ++ "=>" ++ mutability ++ ">" ++
      note ++ ")"
  | transmute caller fromType toType note _ =>
    "warning: Here is transmute(fn " ++ caller ++ ">" ++ fromType ++ ">" ++ toType ++ "=>" ++ note ++ ")"
  | bug kind before caller after _ => (kind.marker?).getD [] ++ before ++ "`" ++ caller ++ "`" ++ after

/-- The line below the header. -/
def continuation : Finding → Text
  | cast _ _ _ _ _ location | transmute _ _ _ _ location => "  --> " ++ location
  | bug _ _ _ _ location => "-> " ++ location

/-- Where the finding lies. -/
def location : Finding → Text
  | cast _ _ _ _ _ location | transmute _ _ _ _ location | bug _ _ _ _ location => location

/-- The fields that the header alone gives. -/
def fields : Finding → Record
  | cast caller fromType toType mutability note _ => { kind := .cast, caller, fromType, toType, mutability, note }
  | transmute caller fromType toType note _ => { kind := .transmute, caller, fromType, toType, note }
  | bug kind _ caller _ _ => { kind, caller }

/-- The record of a finding whose header is the line with a number. -/
def record (src : Source) (number : Nat) (f : Finding) : Record :=
  { f.fields with
    location := f.location
    packageId := src.packageId
    logPath := src.logPath
    line := (number : Int) }

end Finding

/-! ## what can be printed -/

/-- The byte `>`. -/
abbrev angle : UInt8 := 0x3e

/-- The byte `=`. -/
abbrev equals : UInt8 := 0x3d

/-- A text that a field may hold: it is trimmed and stays on its line. -/
structure IsField (s : Text) : Prop where
  trimmed : Text.trim s = s
  oneLine : Text.lf ∉ s

/-- The text of a field without `>`. -/
structure IsSegment (s : Text) : Prop extends IsField s where
  no_angle : angle ∉ s

/-- The fields before the `=>` of a conversion. -/
structure IsSource (caller fromType toType : Text) : Prop where
  caller_segment : IsSegment caller
  caller_ne_nil : caller ≠ []
  caller_end : caller.getLast? ≠ some equals
  from_segment : IsSegment fromType
  from_end : fromType.getLast? ≠ some equals
  to_segment : IsSegment toType

/-- The note of a cast holds at most one `>`, with trimmed text on both sides. -/
def IsCastNote (note : Text) : Prop :=
  angle ∉ note ∨ ∃ a b, note = a ++ ">" ++ b ∧ Text.trim a = a ∧ Text.trim b = b ∧ angle ∉ a ∧ angle ∉ b ∧
    a.getLast? ≠ some equals

/-- The findings whose lines can be read back. -/
def Finding.Printable : Finding → Prop
  | cast caller fromType toType mutability note location =>
    IsSource caller fromType toType ∧ IsSegment mutability ∧ mutability.getLast? ≠ some equals ∧
      IsField note ∧ IsCastNote note ∧ IsField location ∧ location ≠ []
  | transmute caller fromType toType note location =>
    IsSource caller fromType toType ∧ IsField note ∧ ¬ ("=>" : Text) <:+: note ∧ IsField location ∧ location ≠ []
  | bug kind before caller after location =>
    kind.isBug = true ∧ Text.lf ∉ before ∧ 0x60 ∉ before ∧ IsField caller ∧ caller ≠ [] ∧ 0x60 ∉ caller ∧
      Text.lf ∉ after ∧ IsField location ∧ location ≠ []

/-! ## the two sides of a conversion -/

theorem sides_eq : ("=>" : Text) = [equals, angle] := by decide

theorem pair_infix_angle_cons (t : Text) : [equals, angle] <:+: angle :: t ↔ [equals, angle] <:+: t := by
  rw [List.infix_cons_iff]
  refine or_iff_right fun h => ?_
  simp [List.cons_prefix_cons, show equals ≠ angle by decide] at h

/-- A segment that does not end in `=` brings no `=>` before a `>`. -/
theorem sides_not_within {s t : Text} (hs : angle ∉ s) (hend : s.getLast? ≠ some equals)
    (ht : ¬ [equals, angle] <:+: t) : ¬ [equals, angle] <:+: s ++ angle :: t := by
  rw [Text.pair_infix_append, pair_infix_angle_cons]
  rintro (h | h | h)
  · exact Text.pair_not_infix_of_not_mem hs h
  · exact hend h
  · exact ht h

section Source

variable {caller fromType toType : Text}

/-- The caller's segment. -/
abbrev callerSegment (caller : Text) : Text := 0x66 :: 0x6e :: Text.space :: caller

theorem callerOf_segment (h : IsSource caller fromType toType) : Header.callerOf (callerSegment caller) = caller := by
  have hchop : Text.chopPrefix (callerSegment caller) "fn " = caller := Text.chopPrefix_append "fn " caller
  rw [Header.callerOf, Text.trim_fn h.caller_segment.trimmed h.caller_ne_nil, hchop, h.caller_segment.trimmed]

theorem splitConversion_source (h : IsSource caller fromType toType) {result : Text}
    (hresult : ¬ [equals, angle] <:+: result) :
    Header.splitConversion
        (callerSegment caller ++ angle :: (fromType ++ angle :: (toType ++ equals :: angle :: result))) =
      .ok ({ caller, fromType, toType }, result) := by
  have hcaller : angle ∉ callerSegment caller := by
    simp only [List.mem_cons, not_or]
    exact ⟨by decide, by decide, by decide, h.caller_segment.no_angle⟩
  have hcallerEnd : (callerSegment caller).getLast? ≠ some equals := by
    have hlast : (callerSegment caller).getLast? = caller.getLast? :=
      List.getLast?_append_of_ne_nil [0x66, 0x6e, Text.space] h.caller_ne_nil
    rw [hlast]
    exact h.caller_end
  have hsource : ¬ [equals, angle] <:+: callerSegment caller ++ angle :: (fromType ++ angle :: toType) :=
    sides_not_within hcaller hcallerEnd
      (sides_not_within h.from_segment.no_angle h.from_end (Text.pair_not_infix_of_not_mem h.to_segment.no_angle))
  have hsides : Text.splitOn (callerSegment caller ++ angle :: (fromType ++ angle :: (toType ++ equals :: angle :: result)))
      "=>" = [callerSegment caller ++ angle :: (fromType ++ angle :: toType), result] := by
    have := Text.splitOn_append_pair (by decide) hsource result
    rw [Text.splitOn_of_not_within (by simp) hresult] at this
    simpa [sides_eq] using this
  have hsegments : Text.splitOn (callerSegment caller ++ angle :: (fromType ++ angle :: toType)) ">" =
      [callerSegment caller, fromType, toType] := by
    rw [show (">" : Text) = [angle] by decide, Text.splitOn_append_byte hcaller,
      Text.splitOn_append_byte h.from_segment.no_angle, Text.splitOn_of_not_mem h.to_segment.no_angle]
  unfold Header.splitConversion
  rw [hsides]
  simp only [hsegments, callerOf_segment h, h.from_segment.trimmed, h.to_segment.trimmed]
  simp [h.caller_ne_nil]

end Source

/-! ## headers -/

/-- The part of a conversion header behind its marker, with the `)` that closes it. -/
theorem payload_closed (marker body : Text) : Header.payload marker (marker ++ (body ++ ")")) = body := by
  have hblank : Text.dropEnd (body ++ ")") Text.isLineBlank = body ++ ")" :=
    Text.dropEnd_concat_of_not (by decide) body
  rw [Header.payload, List.drop_left, hblank, Text.chopSuffix_append]

/-- A line that starts with `w` and ends with `)` is clean. -/
theorem clean_conversion (marker body : Text) (hm : marker.head? = some 0x77) :
    Header.clean (marker ++ (body ++ ")")) = marker ++ (body ++ ")") := by
  obtain ⟨rest, rfl⟩ := List.head?_eq_some_iff.1 hm
  rw [List.cons_append, Header.clean_of_head (by decide), ← List.cons_append, ← List.append_assoc]
  exact Text.dropEnd_concat_of_not (by decide) _

/-- The marker of a cast. -/
abbrev castMarker : Text := "warning: Here is cast("

/-- The marker of a transmute. -/
abbrev transmuteMarker : Text := "warning: Here is transmute("

theorem fieldsOf_cast (body : Text) :
    Header.fieldsOf (castMarker ++ (body ++ ")")) .cast = Header.castFields body := by
  have hm : Kind.cast.marker? = some castMarker := rfl
  simp only [Header.fieldsOf, hm, clean_conversion castMarker body (by decide), Text.startsWith_append, if_true,
    payload_closed]

theorem fieldsOf_transmute (body : Text) :
    Header.fieldsOf (transmuteMarker ++ (body ++ ")")) .transmute = Header.transmuteFields body := by
  have hm : Kind.transmute.marker? = some transmuteMarker := rfl
  simp only [Header.fieldsOf, hm, clean_conversion transmuteMarker body (by decide), Text.startsWith_append,
    if_true, payload_closed]

section Conversions

variable {caller fromType toType : Text} (h : IsSource caller fromType toType)
include h

theorem castFields_printed {mutability note : Text} (hm : IsSegment mutability)
    (hend : mutability.getLast? ≠ some equals) (hn : IsField note) (hc : IsCastNote note) :
    Header.castFields (callerSegment caller ++
        angle :: (fromType ++ angle :: (toType ++ equals :: angle :: (mutability ++ angle :: note)))) =
      .ok { caller, fromType, toType, mutability, note } := by
  have hangle : (">" : Text) = [angle] := by decide
  rcases hc with hno | ⟨a, b, rfl, ha, hb, hano, hbno, haend⟩
  · have hresult : ¬ [equals, angle] <:+: mutability ++ angle :: note :=
      sides_not_within hm.no_angle hend (Text.pair_not_infix_of_not_mem hno)
    have hsplit : Text.splitOn (mutability ++ angle :: note) ">" = [mutability, note] := by
      rw [hangle, Text.splitOn_append_byte hm.no_angle, Text.splitOn_of_not_mem hno]
    simp only [Header.castFields, splitConversion_source h hresult, bind, Except.bind, hsplit, hm.trimmed,
      hn.trimmed]
  · have hcat : a ++ ">" ++ b = a ++ angle :: b := by rw [hangle]; simp
    have hresult : ¬ [equals, angle] <:+: mutability ++ angle :: (a ++ angle :: b) :=
      sides_not_within hm.no_angle hend (sides_not_within hano haend (Text.pair_not_infix_of_not_mem hbno))
    have hsplit : Text.splitOn (mutability ++ angle :: (a ++ angle :: b)) ">" = [mutability, a, b] := by
      rw [hangle, Text.splitOn_append_byte hm.no_angle, Text.splitOn_append_byte hano,
        Text.splitOn_of_not_mem hbno]
    rw [hcat]
    simp only [Header.castFields, splitConversion_source h hresult, bind, Except.bind, hsplit, hm.trimmed, ha, hb,
      hcat]

theorem transmuteFields_printed {note : Text} (hn : IsField note) (hno : ¬ [equals, angle] <:+: note) :
    Header.transmuteFields (callerSegment caller ++
        angle :: (fromType ++ angle :: (toType ++ equals :: angle :: note))) =
      .ok { caller, fromType, toType, note } := by
  simp only [Header.transmuteFields, splitConversion_source h hno, bind, Except.bind, hn.trimmed]

end Conversions

/-! ## bug reports -/

theorem bug_markers : ∀ k ∈ Kind.recognized, k.isBug = true →
    ((k.marker?).getD []).head? = some 0x45 ∧ 0x60 ∉ (k.marker?).getD [] ∧ Text.lf ∉ (k.marker?).getD [] := by
  decide +kernel

section Bugs

variable {kind : Kind} (hk : kind.isBug = true)
include hk

theorem bug_marker : ∃ marker, kind.marker? = some (0x45 :: marker) ∧ 0x60 ∉ (0x45 :: marker : Text) ∧
    Text.lf ∉ (0x45 :: marker : Text) := by
  have hsome : (kind.marker?).isSome = true := by
    cases kind <;> simp [Kind.isBug] at hk <;> rfl
  obtain ⟨marker, hm⟩ := Option.isSome_iff_exists.1 hsome
  have h := bug_markers kind (Header.mem_recognized_iff.2 hsome) hk
  rw [hm, Option.getD_some] at h
  obtain ⟨rest, rfl⟩ := List.head?_eq_some_iff.1 h.1
  exact ⟨rest, hm, h.2⟩

theorem fieldsOf_bug {line marker : Text} (hm : kind.marker? = some marker) (hstart : marker <+: Header.clean line) :
    Header.fieldsOf line kind = Header.bugFields (Header.clean line) := by
  have hs := Text.startsWith_iff.2 hstart
  rw [Header.fieldsOf, hm]
  cases kind <;> simp [Kind.isBug] at hk <;> simp [hs]

end Bugs

/-- The caller of a bug report stands between the first two backticks. -/
theorem bugFields_printed {front caller after : Text} (hf : 0x60 ∉ front) (hc : 0x60 ∉ caller)
    (ht : Text.trim caller = caller) (hne : caller ≠ []) :
    Header.bugFields (front ++ 0x60 :: (caller ++ 0x60 :: after)) = .ok { caller } := by
  rw [Header.bugFields, Text.cut?_append_byte hf]
  simp only [Text.cut?_append_byte hc, ht]
  simp [hne]

/-! ## the line below a header -/

theorem marker_head : ∀ k ∈ Kind.recognized,
    ((k.marker?).getD []).head? = some 0x77 ∨ ((k.marker?).getD []).head? = some 0x45 := by decide +kernel

theorem isHeader_of_head (src : Source) {b : UInt8} (hb : b ≠ 0x77 ∧ b ≠ 0x45 ∧ b ≠ 0xef) (line : Text) :
    isHeader src (b :: line) = false := by
  by_contra hh
  have hkind : kindOf src (b :: line) ≠ .none := by simpa [isHeader] using hh
  obtain ⟨-, -, ha⟩ := (Header.classify_eq_iff hkind).1 rfl
  obtain ⟨marker, hm, hp⟩ := Header.announces_iff.1 ha
  rw [Header.clean_of_head hb.2.2] at hp
  have hline : marker <+: b :: line := hp.trans (List.rdropWhile_prefix _ _)
  have hhead := marker_head (kindOf src (b :: line)) (Header.mem_recognized_iff.2 (by simp [hm]))
  rw [hm, Option.getD_some] at hhead
  rcases marker with _ | ⟨c, marker⟩
  · simp at hhead
  · obtain ⟨rfl, -⟩ := List.cons_prefix_cons.1 hline
    simp [hb.1, hb.2.1] at hhead

section Continuation

variable {location : Text} (h : IsField location) (hne : location ≠ [])
include h hne

/-- The location of a conversion stands behind the arrow. -/
theorem location_of_conversion {kind : Kind} (hk : kind.isConversion = true)
    (hv : Text.valid ("  --> " ++ location) = true) : Location.extract ("  --> " ++ location) kind = location := by
  have hline : ("  --> " : Text) ++ location = 0x20 :: ([0x20, 0x2d, 0x2d, 0x3e, 0x20] ++ location) := rfl
  have hclean : Header.clean ("  --> " ++ location) = "  --> " ++ location := by
    rw [hline, Header.clean_of_head (by decide), ← hline, Text.dropEnd_append_of_trimmed h.trimmed hne]
  have hcut : Text.cut? ("  --> " ++ location) Location.arrow = some ([0x20, 0x20], Text.space :: location) := rfl
  have htail : Text.valid (Text.space :: location) = true := by
    rw [hline] at hv
    rw [Text.valid_ascii (by decide)]
    simpa [Text.valid_ascii] using hv
  have hm : (kind.marker?).isSome = true := by
    cases kind <;> simp [Kind.isConversion] at hk <;> rfl
  obtain ⟨marker, hm⟩ := Option.isSome_iff_exists.1 hm
  rw [Location.extract, hclean, hm]
  simp only [hk, if_true, hcut]
  rw [Location.tidy, Text.repair_of_valid htail, Text.trim_space_cons, h.trimmed]

/-- The location of a bug report stands behind three columns. -/
theorem location_of_bug {kind : Kind} (hk : kind.isBug = true) (hv : Text.valid ("-> " ++ location) = true) :
    Location.extract ("-> " ++ location) kind = location := by
  have hline : ("-> " : Text) ++ location = 0x2d :: ([0x3e, 0x20] ++ location) := rfl
  have hclean : Header.clean ("-> " ++ location) = "-> " ++ location := by
    rw [hline, Header.clean_of_head (by decide), ← hline, Text.dropEnd_append_of_trimmed h.trimmed hne]
  have hvl : Text.valid location = true := by
    simpa [hline, Text.valid_ascii] using hv
  have hdrop : Text.dropPieces ("-> " ++ location) Location.columns = location := by
    rw [Text.dropPieces, hline, Text.pieces_ascii (by decide), List.cons_append, Text.pieces_ascii (by decide),
      List.cons_append, Text.pieces_ascii (by decide), List.nil_append]
    exact Text.ofPieces_pieces location
  obtain ⟨marker, hm, -⟩ := bug_marker hk
  have hconv : kind.isConversion = false := by
    cases kind <;> simp [Kind.isBug] at hk <;> rfl
  rw [Location.extract, hclean, hm]
  simp only [hconv, hdrop]
  rw [Location.tidy, Text.repair_of_valid hvl, h.trimmed]
  rfl

end Continuation

/-! ## the two lines of a finding -/

theorem header_cast (caller fromType toType mutability note location : Text) :
    (Finding.cast caller fromType toType mutability note location).header =
      castMarker ++ ((callerSegment caller ++
        angle :: (fromType ++ angle :: (toType ++ equals :: angle :: (mutability ++ angle :: note)))) ++ ")") := by
  have hstart : ("warning: Here is cast(fn " : Text) = castMarker ++ [0x66, 0x6e, Text.space] := by decide
  simp only [Finding.header, hstart, sides_eq, show (">" : Text) = [angle] by decide, List.append_assoc,
    List.cons_append, List.nil_append]

theorem header_transmute (caller fromType toType note location : Text) :
    (Finding.transmute caller fromType toType note location).header =
      transmuteMarker ++ ((callerSegment caller ++
        angle :: (fromType ++ angle :: (toType ++ equals :: angle :: note))) ++ ")") := by
  have hstart : ("warning: Here is transmute(fn " : Text) = transmuteMarker ++ [0x66, 0x6e, Text.space] := by decide
  simp only [Finding.header, hstart, sides_eq, show (">" : Text) = [angle] by decide, List.append_assoc,
    List.cons_append, List.nil_append]

theorem clean_bug {kind : Kind} {marker : Text} (hm : kind.marker? = some (0x45 :: marker))
    (before caller after location : Text) :
    Header.clean (Finding.bug kind before caller after location).header =
      (0x45 :: marker ++ before) ++ 0x60 :: (caller ++ 0x60 :: Text.dropEnd after Text.isLineEnd) := by
  have hheader : (Finding.bug kind before caller after location).header =
      0x45 :: (marker ++ before ++ 0x60 :: caller) ++ 0x60 :: after := by
    simp [Finding.header, hm, show ("`" : Text) = [0x60] by decide]
  rw [hheader, List.cons_append, Header.clean_of_head (by decide), ← List.cons_append,
    Text.dropEnd_append_of_not (by decide)]
  simp

section Finding

variable {f : Finding} (hp : f.Printable)
include hp

/-- The header gives the fields back. -/
theorem extract_header : Header.extract f.header f.kind = .ok f.fields := by
  cases f with
  | cast caller fromType toType mutability note location =>
    obtain ⟨hs, hm, hend, hn, hc, -, -⟩ := hp
    simp only [Header.extract, Finding.kind, header_cast, fieldsOf_cast, castFields_printed hs hm hend hn hc,
      Finding.fields]
  | transmute caller fromType toType note location =>
    obtain ⟨hs, hn, hno, -, -⟩ := hp
    rw [sides_eq] at hno
    simp only [Header.extract, Finding.kind, header_transmute, fieldsOf_transmute, transmuteFields_printed hs hn hno,
      Finding.fields]
  | bug kind before caller after location =>
    obtain ⟨hk, -, hb, hc, hne, hq, -, -, -⟩ := hp
    obtain ⟨marker, hm, hmq, -⟩ := bug_marker hk
    have hclean := clean_bug hm before caller after location
    have hstart : 0x45 :: marker <+: Header.clean (Finding.bug kind before caller after location).header := by
      rw [hclean, List.append_assoc]
      exact List.prefix_append _ _
    have hfront : 0x60 ∉ 0x45 :: marker ++ before := by
      rw [List.mem_append, not_or]
      exact ⟨hmq, hb⟩
    simp only [Header.extract, Finding.kind, fieldsOf_bug hk hm hstart, hclean,
      bugFields_printed hfront hq hc.trimmed hne, Finding.fields]

/-- The line below the header gives the location back. -/
theorem extract_continuation (hv : Text.valid f.continuation = true) :
    Location.extract f.continuation f.kind = f.location := by
  cases f with
  | cast =>
    obtain ⟨-, -, -, -, -, hl, hne⟩ := hp
    exact location_of_conversion hl hne rfl hv
  | transmute =>
    obtain ⟨-, -, -, hl, hne⟩ := hp
    exact location_of_conversion hl hne rfl hv
  | bug kind =>
    obtain ⟨hk, -, -, -, -, -, -, hl, hne⟩ := hp
    exact location_of_bug hl hne hk hv

theorem announces_header : Header.announces (Header.clean f.header) f.kind = true := by
  rw [Header.announces_iff]
  cases f with
  | cast =>
    refine ⟨castMarker, rfl, ?_⟩
    rw [header_cast, clean_conversion castMarker _ (by decide)]
    exact List.prefix_append _ _
  | transmute =>
    refine ⟨transmuteMarker, rfl, ?_⟩
    rw [header_transmute, clean_conversion transmuteMarker _ (by decide)]
    exact List.prefix_append _ _
  | bug kind before caller after location =>
    obtain ⟨marker, hm, -⟩ := bug_marker hp.1
    refine ⟨0x45 :: marker, hm, ?_⟩
    rw [clean_bug hm, List.append_assoc]
    exact List.prefix_append _ _

theorem location_ne_nil : f.location ≠ [] := by
  cases f with
  | cast => exact hp.2.2.2.2.2.2
  | transmute => exact hp.2.2.2.2
  | bug => exact hp.2.2.2.2.2.2.2.2

theorem lf_not_mem_header : Text.lf ∉ f.header := by
  have hlit : Text.lf ∉ (">" : Text) ∧ Text.lf ∉ ("=>" : Text) ∧ Text.lf ∉ (")" : Text) ∧ Text.lf ∉ ("`" : Text) := by
    decide
  cases f with
  | cast caller fromType toType mutability note location =>
    obtain ⟨hs, hm, -, hn, -, -, -⟩ := hp
    have hstart : Text.lf ∉ ("warning: Here is cast(fn " : Text) := by decide
    simp [Finding.header, hstart, hlit, hs.caller_segment.oneLine, hs.from_segment.oneLine, hs.to_segment.oneLine,
      hm.oneLine, hn.oneLine]
  | transmute caller fromType toType note location =>
    obtain ⟨hs, hn, -, -, -⟩ := hp
    have hstart : Text.lf ∉ ("warning: Here is transmute(fn " : Text) := by decide
    simp [Finding.header, hstart, hlit, hs.caller_segment.oneLine, hs.from_segment.oneLine, hs.to_segment.oneLine,
      hn.oneLine]
  | bug kind before caller after location =>
    obtain ⟨hk, hb, -, hc, -, -, ha, -, -⟩ := hp
    obtain ⟨marker, hm, -, hstart⟩ := bug_marker hk
    simp only [Finding.header, hm, Option.getD_some, List.mem_append, not_or]
    exact ⟨⟨⟨⟨⟨hstart, hb⟩, hlit.2.2.2⟩, hc.oneLine⟩, hlit.2.2.2⟩, ha⟩

theorem lf_not_mem_continuation : Text.lf ∉ f.continuation := by
  have hlit : Text.lf ∉ ("  --> " : Text) ∧ Text.lf ∉ ("-> " : Text) := by decide
  cases f with
  | cast =>
    obtain ⟨-, -, -, -, -, hl, -⟩ := hp
    simp [Finding.continuation, hlit, hl.oneLine]
  | transmute =>
    obtain ⟨-, -, -, hl, -⟩ := hp
    simp [Finding.continuation, hlit, hl.oneLine]
  | bug =>
    obtain ⟨-, -, -, -, -, -, -, hl, -⟩ := hp
    simp [Finding.continuation, hlit, hl.oneLine]

theorem header_head : ∃ b rest, f.header = b :: rest ∧ b ≠ 0xef := by
  cases f with
  | cast => exact ⟨0x77, _, rfl, by decide⟩
  | transmute => exact ⟨0x77, _, rfl, by decide⟩
  | bug kind before caller after location =>
    obtain ⟨marker, hm, -⟩ := bug_marker hp.1
    refine ⟨0x45, marker ++ before ++ "`" ++ caller ++ "`" ++ after, ?_, by decide⟩
    simp only [Finding.header, hm, Option.getD_some, List.cons_append]

theorem valid_clean_header (hv : Text.valid f.header = true) : Text.valid (Header.clean f.header) = true := by
  obtain ⟨b, rest, heq, hb⟩ := header_head hp
  rw [heq] at hv ⊢
  rw [Header.clean_of_head hb]
  exact Text.valid_dropEnd hv

omit hp in
theorem isHeader_continuation (src : Source) (f : Finding) : isHeader src f.continuation = false := by
  cases f with
  | cast => exact isHeader_of_head src (by decide) _
  | transmute => exact isHeader_of_head src (by decide) _
  | bug => exact isHeader_of_head src (by decide) _

theorem kind_ne_none : f.kind ≠ .none := by
  intro h
  obtain ⟨marker, hm, -⟩ := Header.announces_iff.1 (announces_header hp)
  rw [h] at hm
  cases hm

theorem kindOf_header {src : Source} (hw : Header.wanted src.kinds f.kind = true)
    (hv : Text.valid f.header = true) : kindOf src f.header = f.kind :=
  (Header.classify_eq_iff (kind_ne_none hp)).2 ⟨valid_clean_header hp hv, hw, announces_header hp⟩

/-- The two lines of a finding give its record. -/
theorem verdict_finding {src : Source} (hw : Header.wanted src.kinds f.kind = true)
    (hh : Text.valid f.header = true) (hc : Text.valid f.continuation = true) (number : Nat) :
    verdict src number f.header (some f.continuation) = some (.record (f.record src number)) := by
  have hkind := kindOf_header hp hw hh
  have hfields := kind_of_extract (extract_header hp)
  have hheader : isHeader src f.header = true := by
    simp [isHeader, hkind, kind_ne_none hp]
  simp [verdict, hheader, hkind, extract_header hp, settle, isHeader_continuation, opened, hfields,
    extract_continuation hp hc, location_ne_nil hp, Finding.record]

end Finding

/-! ## whole logs -/

/-- A part of a log: a line that announces nothing, or a finding. -/
inductive Item where
  | noise (line : Text)
  | finding (f : Finding)
deriving Repr, DecidableEq

namespace Item

/-- The lines of a part. -/
def lines : Item → List Text
  | noise line => [line]
  | finding f => [f.header, f.continuation]

/-- The part can be read back by a scan: other lines are no headers, and findings are of a kind that the scan
looks for. -/
def Readable (src : Source) : Item → Prop
  | noise line => Text.lf ∉ line ∧ isHeader src line = false
  | finding f =>
    Header.wanted src.kinds f.kind = true ∧ f.Printable ∧ Text.valid f.header = true ∧
      Text.valid f.continuation = true

/-- The records of a log whose next line has a number. -/
def records (src : Source) (number : Nat) : List Item → List Record
  | [] => []
  | noise _ :: items => records src (number + 1) items
  | finding f :: items => f.record src number :: records src (number + 2) items

/-- The log that holds some parts. -/
def log (items : List Item) : Text := Text.unlines (items.flatMap lines)

theorem lf_not_mem_lines {src : Source} {items : List Item} (h : ∀ i ∈ items, i.Readable src) :
    ∀ line ∈ items.flatMap lines, Text.lf ∉ line := by
  intro line hline
  obtain ⟨i, hi, hline⟩ := List.mem_flatMap.1 hline
  have hr := h i hi
  cases i with
  | noise => exact List.mem_singleton.1 hline ▸ hr.1
  | finding f =>
    rcases List.mem_pair.1 hline with rfl | rfl
    · exact lf_not_mem_header hr.2.1
    · exact lf_not_mem_continuation hr.2.1

end Item

/-- Each finding is settled by the line below its header, whatever surrounds the two. -/
theorem verdicts_items {src : Source} (items : List Item) : ∀ number : Nat,
    (∀ i ∈ items, i.Readable src) →
    verdicts src number (items.flatMap Item.lines) = (Item.records src number items).map .record := by
  induction items with
  | nil => intro number _; rfl
  | cons i items ih =>
    intro number h
    have hi := h i (List.mem_cons_self ..)
    have hrest := fun j hj => h j (List.mem_cons_of_mem i hj)
    cases i with
    | noise line =>
      have hnone := verdict_of_noise src hi.2 number (items.flatMap Item.lines).head?
      simp only [List.flatMap_cons, Item.lines, List.singleton_append, verdicts_cons, hnone, Option.toList_none,
        List.nil_append, ih (number + 1) hrest, Item.records]
    | finding f =>
      obtain ⟨hw, hp, hh, hc⟩ := hi
      have hnone := verdict_of_noise src (isHeader_continuation src f) (number + 1) (items.flatMap Item.lines).head?
      simp only [List.flatMap_cons, Item.lines, List.cons_append, List.nil_append, verdicts_cons, List.head?_cons,
        verdict_finding hp hw hh hc, hnone, Option.toList_some, Option.toList_none, ih (number + 2) hrest,
        Item.records, List.map_cons]

/-- The findings among some parts of a log. -/
def Item.findings (items : List Item) : List Finding :=
  items.filterMap fun
    | .finding f => some f
    | .noise _ => none

theorem length_records (src : Source) (items : List Item) : ∀ number : Nat,
    (Item.records src number items).length = (Item.findings items).length := by
  induction items with
  | nil => intro number; rfl
  | cons i items ih =>
    intro number
    cases i with
    | noise line => exact ih (number + 1)
    | finding f => exact congrArg (· + 1) (ih (number + 2))

/-- **Scanning undoes printing.** A log that holds findings and other lines gives exactly its findings, each at the
line of its header, and no failures. -/
theorem ofContent_log (src : Source) (items : List Item) (hitems : ∀ i ∈ items, i.Readable src)
    (hfits : ∀ line ∈ items.flatMap Item.lines, line.length < Lines.wide) :
    ofContent src (Item.log items) =
      ({ packageId := src.packageId
         logPath := src.logPath
         records := Item.records src 1 items
         failures := []
         lines := (items.flatMap Item.lines).length
         headers := (Item.findings items).length }, none) := by
  have hraw : Lines.raw (Item.log items) = items.flatMap Item.lines :=
    Lines.raw_unlines (Item.lf_not_mem_lines hitems)
  have hverdicts := verdicts_items items 1 hitems
  have hheaders : (items.flatMap Item.lines).countP (isHeader src) = (Item.findings items).length := by
    rw [← length_verdicts src _ 1, hverdicts, List.length_map, length_records]
  have hrecord : (Verdict.record? ∘ Verdict.record) = some := rfl
  have hfailure : (Verdict.failure? ∘ Verdict.record) = fun _ => none := rfl
  rw [ofContent_of_fits src (hraw ▸ hfits), hraw, ofLines_dropReturn, ofLines_eq]
  simp [forecast, outlook, hverdicts, hheaders, List.filterMap_map, hrecord, hfailure]

/-- A type that ends in `=`, a note that holds `>`, a bug report with a carriage return behind it. -/
theorem ofContent_log_mixed :
    let src : Source := ⟨"demo-0.1.0", "demo-0.1.0/lint.log", [.cast, .brokenLayout]⟩
    let cast : Finding := .cast "a b" "*const u8" "T=" "mut" "Vec<u8>x" "src/a.rs:1:1"
    let bug : Finding := .bug .brokenLayout " in " "run" " here`\r" "src/b.rs:2:2"
    let items : List Item := [.noise "noise", .finding cast, .finding bug, .noise "warning: Here is transmute(c)"]
    (∀ i ∈ items, i.Readable src) ∧ (∀ line ∈ items.flatMap Item.lines, line.length < Lines.wide) ∧
    Item.log items = Text.unlines ["noise", "warning: Here is cast(fn a b>*const u8>T==>mut>Vec<u8>x)",
      "  --> src/a.rs:1:1", "Error (BrokenLayout:): in `run` here`\r", "-> src/b.rs:2:2", "warning: Here is transmute(c)"] ∧
    ofContent src (Item.log items) =
      ({ packageId := src.packageId
         logPath := src.logPath
         records := [⟨.cast, src.packageId, "a b", "*const u8", "T=", "mut", "Vec<u8>x", "src/a.rs:1:1", src.logPath, 2⟩,
           ⟨.brokenLayout, src.packageId, "run", [], [], [], [], "src/b.rs:2:2", src.logPath, 4⟩]
         failures := []
         lines := 6
         headers := 2 }, none) := by
  intro src cast bug items
  have hsegment : ∀ s : Text, s ∈ (["a b", "*const u8", "T=", "mut"] : List Text) → IsSegment s :=
    fun s hs => ⟨⟨by revert s; decide +kernel, by revert s; decide +kernel⟩, by revert s; decide +kernel⟩
  have hsource : IsSource "a b" "*const u8" "T=" :=
    ⟨hsegment _ (by simp), by decide, by decide, hsegment _ (by simp), by decide, hsegment _ (by simp)⟩
  have hcast : cast.Printable :=
    ⟨hsource, hsegment _ (by simp), by decide, ⟨by decide +kernel, by decide⟩,
      .inr ⟨"Vec<u8", "x", by decide +kernel⟩, ⟨by decide +kernel, by decide⟩, by decide⟩
  have hbug : bug.Printable :=
    ⟨rfl, by decide, by decide, ⟨by decide +kernel, by decide⟩, by decide, by decide, by decide,
      ⟨by decide +kernel, by decide⟩, by decide⟩
  have hitems : ∀ i ∈ items, i.Readable src := by
    simp only [items, List.forall_mem_cons]
    exact ⟨⟨by decide, by decide +kernel⟩, ⟨rfl, hcast, by decide +kernel⟩, ⟨rfl, hbug, by decide +kernel⟩,
      ⟨by decide, by decide +kernel⟩, by simp⟩
  have hfits : ∀ line ∈ items.flatMap Item.lines, line.length < Lines.wide := by decide +kernel
  have hrecords : Item.records src 1 items =
      [⟨.cast, src.packageId, "a b", "*const u8", "T=", "mut", "Vec<u8>x", "src/a.rs:1:1", src.logPath, 2⟩,
        ⟨.brokenLayout, src.packageId, "run", [], [], [], [], "src/b.rs:2:2", src.logPath, 4⟩] := by decide +kernel
  refine ⟨hitems, hfits, by decide +kernel, ?_⟩
  rw [ofContent_log src items hitems hfits, hrecords]
  rfl

end CastAudit.Scan
