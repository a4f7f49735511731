import CastAudit.Proofs.Header.Classify
import CastAudit.Proofs.Scan.Positions
import CastAudit.Proofs.Store.Records

/-!
# What a scan captures can be stored

A line of a log holds no line feed, so no field taken from it does, and its number is not larger than the size of the
log.

* `Text.MadeFrom s x` — a text is made of the bytes of another, a `>` and replacement characters, and not much longer;
* `Header.madeFrom_of_fieldsOf`, `Location.madeFrom_extract` — fields and locations are made from their lines;
* `Scan.storable_of_mem_records`, `Scan.lineFeeds_of_mem_records` — records of a scan are stored and read back as they
  are;
* `Scan.logPath_of_mem_failures` — a failure names the log.
-/

namespace CastAudit

namespace Text

/-- The text is made of bytes of another, a `>` and replacement characters. -/
structure MadeFrom (s x : Text) : Prop where
  bytes : ∀ b ∈ x, b ∈ s ∨ b = 0x3e ∨ b ∈ replacement
  length : x.length ≤ 3 * s.length + 1

section MadeFrom

variable {s t x y : Text}

theorem MadeFrom.of_sublist (h : x.Sublist s) : MadeFrom s x :=
  ⟨fun _ hb => .inl (h.mem hb), by have := h.length_le; omega⟩

theorem MadeFrom.mono (h : MadeFrom t x) (hsub : t.Sublist s) : MadeFrom s x :=
  ⟨fun b hb => (h.bytes b hb).imp_left hsub.mem, by have := h.length; have := hsub.length_le; omega⟩

theorem MadeFrom.sublist (h : MadeFrom s x) (hsub : y.Sublist x) : MadeFrom s y :=
  ⟨fun b hb => h.bytes b (hsub.mem hb), hsub.length_le.trans h.length⟩

theorem MadeFrom.no_lf (h : MadeFrom s x) (hs : lf ∉ s) : lf ∉ x := by
  intro hmem
  rcases h.bytes lf hmem with hmem | hmem | hmem
  · exact hs hmem
  · exact absurd hmem (by decide)
  · exact absurd hmem (by decide)

theorem madeFrom_repair (s : Text) : MadeFrom s (repair s) := by
  have hstep : ∀ (ps : List Piece) (state : Text × Bool),
      (ps.foldl repairStep state).1.length ≤ state.1.length + 3 * (ofPieces ps).length ∧
        ∀ b ∈ (ps.foldl repairStep state).1, b ∈ state.1 ∨ b ∈ ofPieces ps ∨ b ∈ replacement := by
    intro ps
    induction ps with
    | nil => exact fun state => ⟨Nat.le_add_right .., fun b hb => .inl hb⟩
    | cons p ps ih =>
      intro state
      have hcons : ofPieces (p :: ps) = p.bytes ++ ofPieces ps := List.flatMap_cons ..
      obtain ⟨hlength, hbytes⟩ := ih (repairStep state p)
      have hone : (repairStep state p).1.length ≤ state.1.length + 3 * p.bytes.length ∧
          ∀ b ∈ (repairStep state p).1, b ∈ state.1 ∨ b ∈ p.bytes ∨ b ∈ replacement := by
        cases p with
        | scalar code bytes =>
          refine ⟨?_, fun b hb => ?_⟩
          · simp only [repairStep, Piece.bytes, List.length_append, List.length_reverse]
            omega
          · rcases List.mem_append.1 hb with hb | hb
            · exact .inr (.inl (List.mem_reverse.1 hb))
            · exact .inl hb
        | stray byte =>
          simp only [repairStep]
          split
          · exact ⟨Nat.le_add_right .., fun b hb => .inl hb⟩
          · refine ⟨?_, fun b hb => ?_⟩
            · simp only [Piece.bytes, List.length_append, List.length_reverse, List.length_cons, List.length_nil]
              omega
            · rcases List.mem_append.1 hb with hb | hb
              · exact .inr (.inr (List.mem_reverse.1 hb))
              · exact .inl hb
      rw [List.foldl_cons, hcons]
      refine ⟨?_, fun b hb => ?_⟩
      · rw [List.length_append]
        omega
      · rw [List.mem_append]
        rcases hbytes b hb with hb | hb | hb
        · exact (hone.2 b hb).imp_right (Or.imp_left .inl)
        · exact .inr (.inl (.inr hb))
        · exact .inr (.inr hb)
  obtain ⟨hlength, hbytes⟩ := hstep (pieces s) ([], false)
  rw [ofPieces_pieces] at hlength hbytes
  refine ⟨fun b hb => ?_, ?_⟩
  · rcases hbytes b (List.mem_reverse.1 hb) with hb | hb | hb
    · cases hb
    · exact .inl hb
    · exact .inr (.inr hb)
  · rw [repair, List.length_reverse]
    simp only [List.length_nil, Nat.zero_add] at hlength
    omega

end MadeFrom

end Text

theorem Text.chopPrefix_sublist (s p : Text) : (Text.chopPrefix s p).Sublist s := by
  unfold Text.chopPrefix
  split
  · exact List.drop_sublist ..
  · exact .refl s

theorem Text.dropEnd_sublist (s : Text) (p : UInt8 → Bool) : (Text.dropEnd s p).Sublist s :=
  (List.rdropWhile_prefix p s).sublist

theorem Text.chopSuffix_sublist (s p : Text) : (Text.chopSuffix s p).Sublist s := by
  unfold Text.chopSuffix
  split
  · exact List.take_sublist ..
  · exact .refl s

/-! ## fields -/

namespace Header

/-- The texts of the fields. -/
def Fields.texts (f : Fields) : List Text := [f.caller, f.fromType, f.toType, f.mutability, f.note]

theorem clean_sublist (line : Text) : (clean line).Sublist line :=
  (Text.dropEnd_sublist ..).trans (Text.chopPrefix_sublist ..)

theorem payload_sublist (marker line : Text) : (payload marker line).Sublist line :=
  (Text.chopSuffix_sublist ..).trans ((Text.dropEnd_sublist ..).trans (List.drop_sublist ..))

theorem callerOf_sublist (segment : Text) : (callerOf segment).Sublist segment :=
  (Text.trim_sublist _).trans ((Text.chopPrefix_sublist ..).trans (Text.trim_sublist _))

section Fields

variable {s : Text} {f : Fields}

theorem sublist_of_splitConversion {result : Text} (h : splitConversion s = .ok (f, result)) :
    (∀ x ∈ f.texts, x.Sublist s) ∧ result.Sublist s := by
  unfold splitConversion at h
  split at h
  · next source result' hsides =>
    have hside : ∀ x ∈ [source, result'], x.Sublist s := fun x hx => Text.sublist_of_mem_splitOn (hsides ▸ hx)
    split at h
    · next caller fromType toType hsegments =>
      have hsegment : ∀ x ∈ [caller, fromType, toType], x.Sublist s := fun x hx =>
        (Text.sublist_of_mem_splitOn (hsegments ▸ hx)).trans (hside source (by simp))
      split at h
      · cases h
      · cases h
        refine ⟨?_, hside _ (by simp)⟩
        simp only [List.forall_mem_cons] at hsegment
        obtain ⟨hcaller, hfrom, hto, -⟩ := hsegment
        have hcaller' := (callerOf_sublist caller).trans hcaller
        have hfrom' := (Text.trim_sublist fromType).trans hfrom
        have hto' := (Text.trim_sublist toType).trans hto
        simp [Fields.texts, hcaller', hfrom', hto']
    · cases h
  · cases h

theorem madeFrom_of_castFields (h : castFields s = .ok f) : ∀ x ∈ f.texts, Text.MadeFrom s x := by
  unfold castFields at h
  cases hsplit : splitConversion s with
  | error p =>
    rw [hsplit] at h
    cases h
  | ok parts =>
    obtain ⟨fields, result⟩ := parts
    obtain ⟨hfields, hresult⟩ := sublist_of_splitConversion hsplit
    have hmade : ∀ x ∈ fields.texts, Text.MadeFrom s x := fun x hx => .of_sublist (hfields x hx)
    rw [hsplit] at h
    simp only [Fields.texts, List.forall_mem_cons] at hmade
    have hsegment : ∀ x ∈ Text.splitOn result ">", (Text.trim x).Sublist s := fun x hx =>
      (Text.trim_sublist x).trans ((Text.sublist_of_mem_splitOn hx).trans hresult)
    simp only [bind, Except.bind] at h
    split at h
    · next mutability note hsegments =>
      cases h
      rw [hsegments] at hsegment
      simp only [List.forall_mem_cons] at hsegment
      simp [Fields.texts, hmade, Text.MadeFrom.of_sublist hsegment.1, Text.MadeFrom.of_sublist hsegment.2.1]
    · next mutability a b hsegments =>
      cases h
      rw [hsegments] at hsegment
      simp only [List.forall_mem_cons] at hsegment
      -- the note is put together from two segments again
      have hnote : Text.MadeFrom s (Text.trim a ++ ">" ++ Text.trim b) := by
        have ha := hsegment.2.1.length_le
        have hb := hsegment.2.2.1.length_le
        have hangle : (">" : Text).length = 1 := by decide
        refine ⟨fun c hc => ?_, by simp only [List.length_append]; omega⟩
        rcases List.mem_append.1 hc with hc | hc
        · rcases List.mem_append.1 hc with hc | hc
          · exact .inl (hsegment.2.1.mem hc)
          · exact .inr (.inl (List.mem_singleton.1 hc))
        · exact .inl (hsegment.2.2.1.mem hc)
      simp only [Fields.texts, List.forall_mem_cons]
      exact ⟨hmade.1, hmade.2.1, hmade.2.2.1, .of_sublist hsegment.1, hnote, by simp⟩
    · cases h

theorem sublist_of_transmuteFields (h : transmuteFields s = .ok f) : ∀ x ∈ f.texts, x.Sublist s := by
  unfold transmuteFields at h
  cases hsplit : splitConversion s with
  | error p =>
    rw [hsplit] at h
    cases h
  | ok parts =>
    obtain ⟨fields, result⟩ := parts
    obtain ⟨hfields, hresult⟩ := sublist_of_splitConversion hsplit
    rw [hsplit] at h
    cases h
    have hnote := (Text.trim_sublist result).trans hresult
    simp_all [Fields.texts]

theorem sublist_of_bugFields (h : bugFields s = .ok f) : ∀ x ∈ f.texts, x.Sublist s := by
  unfold bugFields at h
  split at h
  · cases h
  · next before rest hopen =>
    split at h
    · cases h
    · next caller after hclose =>
      split at h
      · cases h
      · cases h
        have hcaller :=
          (Text.trim_sublist caller).trans ((Text.cut?_sublist hclose).1.trans (Text.cut?_sublist hopen).2)
        simp [Fields.texts, hcaller]

/-- **Fields are made from their line.** -/
theorem madeFrom_of_fieldsOf {kind : Kind} (h : fieldsOf s kind = .ok f) : ∀ x ∈ f.texts, Text.MadeFrom s x := by
  unfold fieldsOf at h
  split at h
  · cases h
  · next marker hmarker =>
    have hpayload := (payload_sublist marker (clean s)).trans (clean_sublist s)
    simp only at h
    intro x hx
    split at h
    · split at h
      · exact (madeFrom_of_castFields h x hx).mono hpayload
      · exact .of_sublist ((sublist_of_transmuteFields h x hx).trans hpayload)
      · exact .of_sublist ((sublist_of_bugFields h x hx).trans (clean_sublist s))
    · cases h

end Fields

theorem mem_recognized_of_classify {line : Text} {kinds : List Kind} (h : classify line kinds ≠ .none) :
    classify line kinds ∈ Kind.recognized := by
  obtain ⟨-, -, hannounces⟩ := (classify_eq_iff h).1 rfl
  obtain ⟨marker, hmarker, -⟩ := announces_iff.1 hannounces
  exact mem_recognized_iff.2 (by simp [hmarker])

end Header

/-! ## locations -/

namespace Location

/-- **A location is made from its line.** -/
theorem madeFrom_extract (line : Text) (kind : Kind) : Text.MadeFrom line (extract line kind) := by
  have htidy {s : Text} (hs : s.Sublist line) : Text.MadeFrom line (tidy s) :=
    ((Text.madeFrom_repair s).mono hs).sublist (Text.trim_sublist _)
  have hclean := Header.clean_sublist line
  have hcolumns : (Text.dropPieces (Header.clean line) columns).Sublist line := by
    have hsub := (List.drop_sublist columns (Text.pieces (Header.clean line))).flatMap Text.Piece.bytes
    refine List.Sublist.trans ?_ hclean
    conv_rhs => rw [← Text.ofPieces_pieces (Header.clean line)]
    exact hsub
  unfold extract
  simp only
  split
  · exact .of_sublist (List.nil_sublist _)
  · split
    · split
      · next hcut => exact htidy ((Text.cut?_sublist hcut).2.trans hclean)
      · exact htidy hcolumns
    · exact htidy hcolumns

end Location

/-! ## records -/

namespace Scan

variable {src : Source} {content : Text}

/-- A scan is made from lines without line feeds, none of them long and not more than there are bytes. -/
theorem exists_lines (src : Source) (content : Text) :
    ∃ lines : List Text, (∀ line ∈ lines, Text.lf ∉ line ∧ line.length < Lines.wide) ∧
      lines.length ≤ content.length ∧
      (ofContent src content).1.records = (ofLines src lines).records ∧
      (ofContent src content).1.lines = lines.length ∧
      (ofContent src content).1.headers = lines.countP (isHeader src) ∧
      ((ofContent src content).1.failures = (ofLines src lines).failures ∨
        ∃ number reason, (ofContent src content).1.failures =
          (ofLines src lines).failures ++ [src.failure number reason]) := by
  have hpositional := positional_ofLines src (Lines.read Lines.wide content).lines
  refine ⟨(Lines.read Lines.wide content).lines, ?_, ?_, ?_, ?_, ?_, ?_⟩
  · rw [Lines.read_eq (by decide)]
    intro line hline
    obtain ⟨raw, hraw, rfl⟩ := List.mem_map.1 hline
    have hlf := Lines.no_lf_of_mem_raw ((List.takeWhile_sublist _).mem hraw)
    have hfits : raw.length < Lines.wide := by simpa [Lines.fits] using List.mem_takeWhile_imp hraw
    have hsub := Lines.dropReturn_sublist raw
    exact ⟨fun hmem => hlf (hsub.mem hmem), Nat.lt_of_le_of_lt hsub.length_le hfits⟩
  · rw [Lines.read_eq (by decide), List.length_map]
    exact (List.takeWhile_sublist _).length_le.trans (Lines.length_raw_le content)
  · unfold ofContent
    simp only
    split <;> rfl
  · unfold ofContent
    simp only
    split <;> exact hpositional.lines_eq
  · unfold ofContent
    simp only
    split <;> exact hpositional.headers_eq
  · unfold ofContent
    simp only
    split
    · exact .inr ⟨_, _, rfl⟩
    · exact .inl rfl

/-- **Records of a scan can be stored**: their kinds are recognized, and their line numbers fit. -/
theorem storable_of_mem_records (hsize : (content.length : Int) ≤ Text.maxInt64) {r : Record}
    (hr : r ∈ (ofContent src content).1.records) : r.Storable ∧ 0 ≤ r.line := by
  obtain ⟨lines, -, hlength, hrecords, -⟩ := exists_lines src content
  rw [hrecords, mem_records_ofLines] at hr
  obtain ⟨i, hat⟩ := hr
  obtain ⟨line, below, fields, hline, -, hheader, hextract, -, -, rfl⟩ := hat
  have hi := (List.getElem?_eq_some_iff.1 hline).1
  have hkind : kindOf src line ≠ .none := by simpa [isHeader] using hheader
  refine ⟨⟨?_, ?_, ?_⟩, ?_⟩
  · simpa [kind_of_extract hextract] using Header.mem_recognized_of_classify hkind
  · have hmin : Text.minInt64 ≤ 0 := by decide
    simp only
    omega
  · simp only
    omega
  · simp only
    omega

/-- **What a record holds**: the package and the path of its log, and texts of one line that are not long. -/
theorem texts_of_mem_records {r : Record} (hr : r ∈ (ofContent src content).1.records) :
    r.packageId = src.packageId ∧ r.logPath = src.logPath ∧
      ∀ x ∈ [r.caller, r.fromType, r.toType, r.mutability, r.note, r.location],
        Text.lf ∉ x ∧ x.length ≤ 3 * Lines.wide := by
  obtain ⟨lines, hlines, -, hrecords, -⟩ := exists_lines src content
  rw [hrecords, mem_records_ofLines] at hr
  obtain ⟨i, line, below, fields, hline, hbelow, -, hextract, -, -, rfl⟩ := hr
  have hmade {s x : Text} {j : Nat} (hs : lines[j]? = some s) (h : Text.MadeFrom s x) :
      Text.lf ∉ x ∧ x.length ≤ 3 * Lines.wide := by
    obtain ⟨hlf, hlength⟩ := hlines s (List.mem_of_getElem? hs)
    have := h.length
    exact ⟨h.no_lf hlf, by omega⟩
  unfold Header.extract at hextract
  split at hextract
  · next f hf =>
    cases hextract
    have hfields := Header.madeFrom_of_fieldsOf hf
    refine ⟨rfl, rfl, ?_⟩
    simp only [Header.Fields.texts, List.forall_mem_cons] at hfields ⊢
    obtain ⟨hcaller, hfrom, hto, hmutability, hnote, -⟩ := hfields
    exact ⟨hmade hline hcaller, hmade hline hfrom, hmade hline hto, hmade hline hmutability,
      hmade hline hnote, hmade hbelow (Location.madeFrom_extract below _), by simp⟩
  · cases hextract

/-- **Records of a scan hold no line end**, if the package and the path do not. -/
theorem lineFeeds_of_mem_records (hpackage : Text.lf ∉ src.packageId) (hpath : Text.lf ∉ src.logPath) {r : Record}
    (hr : r ∈ (ofContent src content).1.records) : r.lineFeeds = r := by
  obtain ⟨hid, hlog, htexts⟩ := texts_of_mem_records hr
  refine Record.lineFeeds_eq_self fun s hs => Text.pair_not_infix_of_not_mem ?_
  revert s
  simp only [Record.texts, List.forall_mem_cons] at htexts ⊢
  obtain ⟨hcaller, hfrom, hto, hmutability, hnote, hlocation, -⟩ := htexts
  exact ⟨hid ▸ hpackage, hcaller.1, hfrom.1, hto.1, hmutability.1, hnote.1, hlocation.1, hlog ▸ hpath, by simp⟩

theorem logPath_of_mem_failures {f : Failure} (hf : f ∈ (ofContent src content).1.failures) :
    f.logPath = src.logPath := by
  have hlog : ∀ lines : List Text, ∀ f ∈ (ofLines src lines).failures, f.logPath = src.logPath := by
    intro lines f hf
    obtain ⟨i, line, -, -, ⟨e, -, rfl⟩ | ⟨below, fields, -, -, -, -, rfl⟩⟩ := (mem_failures_ofLines src lines f).1 hf
    · rfl
    · rfl
  obtain ⟨lines, -, -, -, -, -, hfailures | ⟨number, reason, hfailures⟩⟩ := exists_lines src content
  · exact hlog lines f (hfailures ▸ hf)
  · rw [hfailures] at hf
    rcases List.mem_append.1 hf with hf | hf
    · exact hlog lines f hf
    · rw [List.mem_singleton.1 hf]
      rfl

end Scan

end CastAudit
