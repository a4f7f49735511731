import CastAudit.Proofs.Header.Classify
import CastAudit.Proofs.Text.Separators

/-!
# The grammar of headers

Extraction splits a header at separators of which one ends in the other, and trims in several places. Here the lines that
it accepts are told without any splitting.

* `IsPayload rest p` — what stands behind a marker without blanks at its end and without one closing parenthesis;
* `IsConversion p caller fromType toType result` — three segments before the only `=>`, and a result behind it;
* `IsResult result mutability note` — the result of a cast, with one `>` or two;
* `Reads line kind record` — a clean line is a header of a kind and has the fields of a record;
* `extract_grammar` — a record is extracted from a line exactly if the line reads as it, and a line that announces a kind
  never fails for want of a marker.
-/

namespace CastAudit.Header

/-! ## the grammar -/

/-- The payload in what stands behind the marker of a conversion. Blanks at the end are no part of it, nor is one closing
parenthesis before them. -/
def IsPayload (rest p : Text) : Prop :=
  ∃ blanks : Text, (∀ b ∈ blanks, Text.isLineBlank b = true) ∧
    (rest = p ++ ")" ++ blanks ∨
      rest = p ++ blanks ∧ ∀ b ∈ p.getLast?, Text.isLineBlank b = false ∧ b ≠ 0x29)

/-- A payload with one `=>`, and with two `>` before it. The first of the three segments names a caller. -/
structure IsConversion (p caller fromType toType result : Text) : Prop where
  text : p = caller ++ ">" ++ fromType ++ ">" ++ toType ++ "=>" ++ result
  once : Text.occurrences p "=>" = 1
  segments : (caller ++ ">" ++ fromType ++ ">" ++ toType).count 0x3e = 2
  named : callerOf caller ≠ []

/-- The result of a cast: one `>` before its note, and perhaps one in it. -/
inductive IsResult : Text → Text → Text → Prop
  | plain {mutability note : Text} (one : (mutability ++ ">" ++ note).count 0x3e = 1) :
      IsResult (mutability ++ ">" ++ note) (Text.trim mutability) (Text.trim note)
  | parted {mutability a b : Text} (two : (mutability ++ ">" ++ a ++ ">" ++ b).count 0x3e = 2) :
      IsResult (mutability ++ ">" ++ a ++ ">" ++ b) (Text.trim mutability) (Text.trim a ++ ">" ++ Text.trim b)

/-- A clean line is a header of a kind and has the fields of a record. -/
inductive Reads (line : Text) : Kind → Record → Prop
  | cast {marker rest p caller fromType toType result mutability note : Text}
      (announced : Kind.cast.marker? = some marker) (text : line = marker ++ rest) (payload : IsPayload rest p)
      (conversion : IsConversion p caller fromType toType result) (after : IsResult result mutability note) :
      Reads line .cast
        { kind := .cast, caller := callerOf caller, fromType := Text.trim fromType, toType := Text.trim toType,
          mutability, note }
  | transmute {marker rest p caller fromType toType result : Text}
      (announced : Kind.transmute.marker? = some marker) (text : line = marker ++ rest) (payload : IsPayload rest p)
      (conversion : IsConversion p caller fromType toType result) :
      Reads line .transmute
        { kind := .transmute, caller := callerOf caller, fromType := Text.trim fromType, toType := Text.trim toType,
          note := Text.trim result }
  | bug {kind : Kind} {marker rest before caller after : Text} (bug : kind.isBug = true)
      (announced : kind.marker? = some marker) (start : line = marker ++ rest)
      (text : line = before ++ "`" ++ caller ++ "`" ++ after) (first : 0x60 ∉ before) (second : 0x60 ∉ caller)
      (named : Text.trim caller ≠ []) : Reads line kind { kind, caller := Text.trim caller }

/-! ## payloads -/

theorem endsWith_byte_iff {s : Text} {b : UInt8} : Text.endsWith s [b] = true ↔ s.getLast? = some b := by
  rw [Text.endsWith, Text.startsWith_iff, List.reverse_singleton, ← List.head?_reverse, List.head?_eq_some_iff]
  constructor
  · rintro ⟨rest, h⟩
    exact ⟨rest, h.symm⟩
  · rintro ⟨rest, h⟩
    exact ⟨rest, h.symm⟩

/-- Nothing but blanks is dropped behind a payload. -/
theorem dropEnd_append_blanks {s blanks : Text} (hblanks : ∀ b ∈ blanks, Text.isLineBlank b = true) :
    Text.dropEnd (s ++ blanks) Text.isLineBlank = Text.dropEnd s Text.isLineBlank := by
  induction blanks using List.reverseRecOn with
  | nil => rw [List.append_nil]
  | append_singleton blanks b ih =>
    rw [Text.dropEnd_eq] at ih ⊢
    rw [← List.append_assoc, List.rdropWhile_concat_pos _ _ _ (hblanks b (by simp)),
      ih fun c hc => hblanks c (List.mem_append_left _ hc)]

theorem isPayload_iff {rest p : Text} :
    IsPayload rest p ↔ p = Text.chopSuffix (Text.dropEnd rest Text.isLineBlank) ")" := by
  have hclose : (")" : Text) = [0x29] := by decide
  constructor
  · rintro ⟨blanks, hblanks, rfl | ⟨rfl, hlast⟩⟩
    · rw [dropEnd_append_blanks hblanks, hclose, Text.dropEnd_concat_of_not (by decide), Text.chopSuffix_append]
    · have hkeep : Text.dropEnd p Text.isLineBlank = p := by
        rw [Text.dropEnd_eq, List.rdropWhile_eq_self_iff]
        intro hne hblank
        rw [(hlast _ (List.getLast?_eq_some_getLast hne)).1] at hblank
        cases hblank
      have hopen : Text.endsWith p ")" = false := by
        rw [← Bool.not_eq_true, hclose, endsWith_byte_iff]
        exact fun hend => (hlast _ hend).2 rfl
      rw [dropEnd_append_blanks hblanks, hkeep, Text.chopSuffix, hopen]
      rfl
  · intro h
    refine ⟨rest.rtakeWhile Text.isLineBlank, fun b hb => List.mem_rtakeWhile_imp hb, ?_⟩
    have hrest : Text.dropEnd rest Text.isLineBlank ++ rest.rtakeWhile Text.isLineBlank = rest :=
      List.rdropWhile_append_rtakeWhile ..
    by_cases hend : Text.endsWith (Text.dropEnd rest Text.isLineBlank) ")" = true
    · left
      obtain ⟨q, hq⟩ : ∃ q, Text.dropEnd rest Text.isLineBlank = q ++ ")" := by
        rw [hclose, endsWith_byte_iff, List.getLast?_eq_some_iff] at hend
        rwa [hclose]
      rw [hq, Text.chopSuffix_append] at h
      rw [h, ← hq, hrest]
    · right
      rw [Text.chopSuffix, if_neg hend] at h
      rw [h, hrest]
      refine ⟨rfl, fun b hb => ⟨?_, ?_⟩⟩
      -- no blank stands at the end of what is left once the blanks there are taken away
      · obtain ⟨hne, rfl⟩ : ∃ hne, (Text.dropEnd rest Text.isLineBlank).getLast hne = b := by
          obtain ⟨front, hfront⟩ := List.getLast?_eq_some_iff.1 hb
          exact ⟨by simp [hfront], by simp [hfront]⟩
        exact Bool.eq_false_iff.2 (List.rdropWhile_last_not Text.isLineBlank rest hne)
      · rintro rfl
        exact hend (endsWith_byte_iff.2 hb)

/-- A line that starts with the marker of a conversion has the payload that the grammar tells of. -/
theorem payload_eq_iff {marker rest p : Text} : payload marker (marker ++ rest) = p ↔ IsPayload rest p := by
  rw [payload, List.drop_left, isPayload_iff, eq_comm]

/-! ## conversions -/

section Conversions

variable {p result : Text} {f : Fields}

theorem angle_eq : (">" : Text) = [0x3e] := by decide

theorem sides_eq_pair : ("=>" : Text) = [0x3d, 0x3e] := by decide

/-- The two sides of a payload are told by its only `=>`. -/
theorem splitOn_sides_iff {source : Text} :
    Text.splitOn p "=>" = [source, result] ↔ p = source ++ "=>" ++ result ∧ Text.occurrences p "=>" = 1 := by
  rw [sides_eq_pair, Text.splitOn_pair_eq_iff (by decide), List.append_assoc]

theorem splitOn_three_iff {s a b c : Text} :
    Text.splitOn s ">" = [a, b, c] ↔ s = a ++ ">" ++ b ++ ">" ++ c ∧ s.count 0x3e = 2 := by
  have hjoin : Text.join [0x3e] [a, b, c] = a ++ ">" ++ b ++ ">" ++ c := by simp [Text.join, angle_eq]
  rw [angle_eq, Text.splitOn_byte_eq_iff_count, hjoin, List.length_cons, List.length_cons, List.length_singleton,
    Nat.add_right_cancel_iff, angle_eq]

theorem splitOn_two_iff {s a b : Text} :
    Text.splitOn s ">" = [a, b] ↔ s = a ++ ">" ++ b ∧ s.count 0x3e = 1 := by
  have hjoin : Text.join [0x3e] [a, b] = a ++ ">" ++ b := by simp [Text.join, angle_eq]
  rw [angle_eq, Text.splitOn_byte_eq_iff_count, hjoin, List.length_cons, List.length_singleton,
    Nat.add_right_cancel_iff, angle_eq]

theorem splitConversion_eq_ok_iff :
    splitConversion p = .ok (f, result) ↔
      ∃ caller fromType toType, IsConversion p caller fromType toType result ∧
        f = { caller := callerOf caller, fromType := Text.trim fromType, toType := Text.trim toType } := by
  constructor
  · intro h
    unfold splitConversion at h
    split at h
    · next source result' hsides =>
      split at h
      · next caller fromType toType hsegments =>
        split at h
        · cases h
        · next hcaller =>
          obtain ⟨rfl, rfl⟩ := Prod.mk.inj (Except.ok.inj h)
          obtain ⟨rfl, honce⟩ := splitOn_sides_iff.1 hsides
          obtain ⟨rfl, htwo⟩ := splitOn_three_iff.1 hsegments
          exact ⟨caller, fromType, toType, ⟨rfl, honce, htwo, by simpa using hcaller⟩, rfl⟩
      · cases h
    · cases h
  · rintro ⟨caller, fromType, toType, ⟨rfl, honce, htwo, hnamed⟩, rfl⟩
    have hnamed' : (callerOf caller).isEmpty = false := by simpa using hnamed
    simp only [splitConversion, splitOn_sides_iff.2 ⟨rfl, honce⟩, splitOn_three_iff.2 ⟨rfl, htwo⟩, hnamed']
    rfl

theorem castFields_eq_ok_iff :
    castFields p = .ok f ↔
      ∃ caller fromType toType result mutability note, IsConversion p caller fromType toType result ∧
        IsResult result mutability note ∧
        f = { caller := callerOf caller, fromType := Text.trim fromType, toType := Text.trim toType, mutability, note } := by
  constructor
  · intro h
    unfold castFields at h
    cases hsplit : splitConversion p with
    | error problem =>
      rw [hsplit] at h
      cases h
    | ok parts =>
      obtain ⟨fields, result⟩ := parts
      obtain ⟨caller, fromType, toType, hconversion, rfl⟩ := splitConversion_eq_ok_iff.1 hsplit
      simp only [hsplit, bind, Except.bind] at h
      split at h
      · next mutability note hresult =>
        obtain rfl := Except.ok.inj h
        obtain ⟨rfl, hone⟩ := splitOn_two_iff.1 hresult
        exact ⟨caller, fromType, toType, _, _, _, hconversion, .plain hone, rfl⟩
      · next mutability a b hresult =>
        obtain rfl := Except.ok.inj h
        obtain ⟨rfl, htwo⟩ := splitOn_three_iff.1 hresult
        exact ⟨caller, fromType, toType, _, _, _, hconversion, .parted htwo, rfl⟩
      · cases h
  · rintro ⟨caller, fromType, toType, result, mutability, note, hconversion, hresult, rfl⟩
    have hsplit := splitConversion_eq_ok_iff.2 ⟨caller, fromType, toType, hconversion, rfl⟩
    cases hresult with
    | plain hone => simp only [castFields, hsplit, bind, Except.bind, splitOn_two_iff.2 ⟨rfl, hone⟩]
    | parted htwo => simp only [castFields, hsplit, bind, Except.bind, splitOn_three_iff.2 ⟨rfl, htwo⟩]

theorem transmuteFields_eq_ok_iff :
    transmuteFields p = .ok f ↔
      ∃ caller fromType toType result, IsConversion p caller fromType toType result ∧
        f = { caller := callerOf caller, fromType := Text.trim fromType, toType := Text.trim toType,
              note := Text.trim result } := by
  constructor
  · intro h
    unfold transmuteFields at h
    cases hsplit : splitConversion p with
    | error problem =>
      rw [hsplit] at h
      cases h
    | ok parts =>
      obtain ⟨fields, result⟩ := parts
      obtain ⟨caller, fromType, toType, hconversion, rfl⟩ := splitConversion_eq_ok_iff.1 hsplit
      simp only [hsplit, bind, Except.bind] at h
      obtain rfl := Except.ok.inj h
      exact ⟨caller, fromType, toType, result, hconversion, rfl⟩
  · rintro ⟨caller, fromType, toType, result, hconversion, rfl⟩
    have hsplit := splitConversion_eq_ok_iff.2 ⟨caller, fromType, toType, hconversion, rfl⟩
    simp only [transmuteFields, hsplit, bind, Except.bind]

end Conversions

/-! ## bug reports -/

theorem bugFields_eq_ok_iff {line : Text} {f : Fields} :
    bugFields line = .ok f ↔
      ∃ before caller after, line = before ++ "`" ++ caller ++ "`" ++ after ∧ 0x60 ∉ before ∧ 0x60 ∉ caller ∧
        Text.trim caller ≠ [] ∧ f = { caller := Text.trim caller } := by
  have htick : ("`" : Text) = [0x60] := by decide
  constructor
  · intro h
    unfold bugFields at h
    split at h
    · cases h
    · next before rest hfirst =>
      split at h
      · cases h
      · next caller after hsecond =>
        split at h
        · cases h
        · next hnamed =>
          cases h
          obtain ⟨rfl, hbefore⟩ := Text.cut?_byte_eq_some_iff.1 hfirst
          obtain ⟨rfl, hcaller⟩ := Text.cut?_byte_eq_some_iff.1 hsecond
          exact ⟨before, caller, after, by simp [htick], hbefore, hcaller, by simpa using hnamed, rfl⟩
  · rintro ⟨before, caller, after, rfl, hbefore, hcaller, hnamed, rfl⟩
    have hfirst : Text.cut? (before ++ "`" ++ caller ++ "`" ++ after) backtick =
        some (before, caller ++ 0x60 :: after) :=
      Text.cut?_byte_eq_some_iff.2 ⟨by simp [htick], hbefore⟩
    have hsecond : Text.cut? (caller ++ 0x60 :: after) backtick = some (caller, after) :=
      Text.cut?_byte_eq_some_iff.2 ⟨rfl, hcaller⟩
    have hnamed' : (Text.trim caller).isEmpty = false := by simpa using hnamed
    simp only [bugFields, hfirst, hsecond, hnamed']
    rfl

/-! ## headers -/

theorem extract_eq_ok_iff {line : Text} {kind : Kind} {r : Record} :
    extract line kind = .ok r ↔
      ∃ f, fieldsOf line kind = .ok f ∧
        r = { kind, caller := f.caller, fromType := f.fromType, toType := f.toType, mutability := f.mutability,
              note := f.note } := by
  unfold extract
  cases fieldsOf line kind with
  | error problem => simp
  | ok f => simp [eq_comm]

/-- How the fields of each kind are read behind its marker. -/
def reader (line marker : Text) (kind : Kind) : Except HeaderProblem Fields :=
  match kind with
  | .cast => castFields (payload marker line)
  | .transmute => transmuteFields (payload marker line)
  | _ => bugFields line

/-- A line with the fields of a kind starts with its marker. -/
theorem fieldsOf_eq_ok_iff {line : Text} {kind : Kind} {f : Fields} :
    fieldsOf line kind = .ok f ↔
      ∃ marker rest, kind.marker? = some marker ∧ clean line = marker ++ rest ∧
        reader (clean line) marker kind = .ok f := by
  unfold fieldsOf
  cases hmarker : kind.marker? with
  | none => simp
  | some marker =>
    by_cases hstart : Text.startsWith (clean line) marker = true
    · obtain ⟨rest, hrest⟩ := Text.startsWith_iff.1 hstart
      simp only [hstart, if_true]
      constructor
      · intro h
        exact ⟨marker, rest, rfl, hrest.symm, h⟩
      · rintro ⟨_, _, heq, -, h⟩
        cases heq
        exact h
    · simp only [hstart]
      constructor
      · intro h
        cases h
      · rintro ⟨_, rest, heq, hrest, -⟩
        cases heq
        exact absurd (Text.startsWith_iff.2 ⟨rest, hrest.symm⟩) hstart

theorem reader_of_bug {line marker : Text} {kind : Kind} {f : Fields} (hkind : kind.isBug = true)
    (hf : bugFields line = .ok f) : reader line marker kind = .ok f := by
  cases kind with
  | none | cast | transmute | other => nomatch hkind
  | brokenLayout | uninitExposure | brokenBitPatterns => exact hf

theorem reads_of_reader {line marker rest : Text} {kind : Kind} {f : Fields} (hmarker : kind.marker? = some marker)
    (hline : line = marker ++ rest) (hf : reader line marker kind = .ok f) :
    Reads line kind
      { kind, caller := f.caller, fromType := f.fromType, toType := f.toType, mutability := f.mutability,
        note := f.note } := by
  have hbug (hkind : kind.isBug = true) (hf : bugFields line = .ok f) :
      Reads line kind
        { kind, caller := f.caller, fromType := f.fromType, toType := f.toType, mutability := f.mutability,
          note := f.note } := by
    obtain ⟨before, caller, after, htext, hbefore, hcaller, hnamed, rfl⟩ := bugFields_eq_ok_iff.1 hf
    exact .bug hkind hmarker hline htext hbefore hcaller hnamed
  cases kind with
  | none => nomatch hmarker
  | other code => nomatch hmarker
  | cast =>
    obtain ⟨caller, fromType, toType, result, mutability, note, hconversion, hresult, rfl⟩ :=
      castFields_eq_ok_iff.1 hf
    rw [hline] at hconversion
    dsimp only
    exact .cast hmarker hline (payload_eq_iff.1 rfl) hconversion hresult
  | transmute =>
    obtain ⟨caller, fromType, toType, result, hconversion, rfl⟩ := transmuteFields_eq_ok_iff.1 hf
    rw [hline] at hconversion
    dsimp only
    exact .transmute hmarker hline (payload_eq_iff.1 rfl) hconversion
  | brokenLayout => exact hbug rfl hf
  | uninitExposure => exact hbug rfl hf
  | brokenBitPatterns => exact hbug rfl hf

/-- **A record is extracted from a line exactly if the clean line reads as it.** -/
theorem extract_iff_reads {line : Text} {kind : Kind} {r : Record} :
    extract line kind = .ok r ↔ Reads (clean line) kind r := by
  rw [extract_eq_ok_iff]
  constructor
  · rintro ⟨f, hf, rfl⟩
    obtain ⟨marker, rest, hmarker, hline, hreader⟩ := fieldsOf_eq_ok_iff.1 hf
    exact reads_of_reader hmarker hline hreader
  · intro h
    cases h with
    | cast hmarker hline hpayload hconversion hresult =>
      have hfields := castFields_eq_ok_iff.2 ⟨_, _, _, _, _, _, hconversion, hresult, rfl⟩
      rw [← payload_eq_iff.2 hpayload, ← hline] at hfields
      exact ⟨_, fieldsOf_eq_ok_iff.2 ⟨_, _, hmarker, hline, hfields⟩, by dsimp only⟩
    | transmute hmarker hline hpayload hconversion =>
      have hfields := transmuteFields_eq_ok_iff.2 ⟨_, _, _, _, hconversion, rfl⟩
      rw [← payload_eq_iff.2 hpayload, ← hline] at hfields
      exact ⟨_, fieldsOf_eq_ok_iff.2 ⟨_, _, hmarker, hline, hfields⟩, by dsimp only⟩
    | bug hbug hmarker hline htext hbefore hcaller hnamed =>
      have hfields := bugFields_eq_ok_iff.2 ⟨_, _, _, htext, hbefore, hcaller, hnamed, rfl⟩
      exact ⟨_, fieldsOf_eq_ok_iff.2 ⟨_, _, hmarker, hline, reader_of_bug hbug hfields⟩, rfl⟩

/-! ## lines that announce a kind -/

theorem splitConversion_error {p : Text} {problem : HeaderProblem} (h : splitConversion p = .error problem) :
    problem ≠ .noGrammar ∧ problem ≠ .noMarker := by
  unfold splitConversion at h
  split at h
  · split at h
    · split at h
      · cases h
        exact ⟨nofun, nofun⟩
      · cases h
    · cases h
      exact ⟨nofun, nofun⟩
  · cases h
    exact ⟨nofun, nofun⟩

/-- The text behind a marker fails for what it holds. -/
theorem reader_error {line marker : Text} {kind : Kind} {problem : HeaderProblem}
    (h : reader line marker kind = .error problem) : problem ≠ .noGrammar ∧ problem ≠ .noMarker := by
  unfold reader at h
  split at h
  · unfold castFields at h
    cases hsplit : splitConversion (payload marker line) with
    | error problem' =>
      rw [hsplit] at h
      cases h
      exact splitConversion_error hsplit
    | ok parts =>
      simp only [hsplit, bind, Except.bind] at h
      split at h
      · cases h
      · cases h
      · cases h
        exact ⟨nofun, nofun⟩
  · unfold transmuteFields at h
    cases hsplit : splitConversion (payload marker line) with
    | error problem' =>
      rw [hsplit] at h
      cases h
      exact splitConversion_error hsplit
    | ok parts =>
      rw [hsplit] at h
      cases h
  · unfold bugFields at h
    split at h
    · cases h
      exact ⟨nofun, nofun⟩
    · split at h
      · cases h
        exact ⟨nofun, nofun⟩
      · split at h
        · cases h
          exact ⟨nofun, nofun⟩
        · cases h

/-- A line that announces a kind gives a record, or a problem of what stands behind the marker. -/
theorem extract_of_announces {line : Text} {kind : Kind} (h : announces (clean line) kind = true) :
    (∃ r, extract line kind = .ok r) ∨
      ∃ problem, extract line kind = .error (.header kind problem none) ∧ problem ≠ .noGrammar ∧
        problem ≠ .noMarker := by
  obtain ⟨marker, hmarker, hstart⟩ := announces_iff.1 h
  have hfields : fieldsOf line kind = reader (clean line) marker kind := by
    simp only [fieldsOf, hmarker, Text.startsWith_iff.2 hstart, if_true]
    rfl
  rw [extract, hfields]
  cases hreader : reader (clean line) marker kind with
  | ok f => exact .inl ⟨_, rfl⟩
  | error problem => exact .inr ⟨problem, rfl, reader_error hreader⟩

/-- **Extraction accepts the header grammar and nothing else.** A line gives a record exactly if it reads as that record,
and it reads in one way only. A line that is told to announce a kind starts with its marker, so that extraction fails, if
it does, for what stands behind the marker. -/
theorem extract_grammar (line : Text) (kind : Kind) :
    (∀ r, extract line kind = .ok r ↔ Reads (clean line) kind r) ∧
    (∀ r r', Reads (clean line) kind r → Reads (clean line) kind r' → r = r') ∧
    ∀ kinds, classify line kinds = kind → kind ≠ .none →
      announces (clean line) kind = true ∧
      ((∃ r, extract line kind = .ok r) ∨
        ∃ problem, extract line kind = .error (.header kind problem none) ∧ problem ≠ .noGrammar ∧
          problem ≠ .noMarker) := by
  refine ⟨fun r => extract_iff_reads, fun r r' h h' => ?_, fun kinds hkind hne => ?_⟩
  · rw [← extract_iff_reads] at h h'
    exact Except.ok.inj (h.symm.trans h')
  · obtain ⟨-, -, hannounces⟩ := (classify_eq_iff hne).1 hkind
    exact ⟨hannounces, extract_of_announces hannounces⟩

/-- Behind a byte-order mark, with `==>` for `=>`, a `>` in the note, and a second parenthesis that the note keeps. -/
theorem extract_grammar_parted :
    let line : Text := byteOrderMark ++ "warning: Here is cast( fn  f >*const T> U==> mut > a > b) ) \t\r\n"
    let record : Record :=
      { kind := .cast, caller := "f", fromType := "*const T", toType := "U=", mutability := "mut", note := "a>b)" }
    classify line [] = .cast ∧ Reads (clean line) .cast record ∧ announces (clean line) .cast = true := by
  intro line record
  have hkind : classify line [] = .cast := by decide +kernel
  have hfields : fieldsOf line .cast =
      .ok { caller := "f", fromType := "*const T", toType := "U=", mutability := "mut", note := "a>b)" } := by
    decide +kernel
  obtain ⟨hreads, -, hannounces⟩ := extract_grammar line .cast
  exact ⟨hkind, (hreads record).1 (extract_eq_ok_iff.2 ⟨_, hfields, by dsimp only [record]⟩), (hannounces [] hkind nofun).1⟩

end CastAudit.Header
