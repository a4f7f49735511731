import CastAudit.Csv.Reader
import CastAudit.Csv.Writer
import Mathlib.Tactic.Common

/-!
# Reading what was written

* `lineFeeds s` — the text with every carriage return and line feed in a row made one line feed, which is all that
  writing and reading changes in a field;
* `normalize_writeRows` — the reader's line ends commute with the writer's quotes;
* `State.At` — what matters of a state of the reader: mode, field, fields and rows, but no positions;
* `read_writeRows` — rows of one length, at least two, are read back;
* `readUniform` — the reader that takes the number of fields from the first row, and `readUniform_writeRows`: it reads
  them back too.
-/

namespace CastAudit.Csv

/-! ## line ends -/

/-- The text with line feeds for its line ends. -/
def lineFeeds : Text → Text
  | [] => []
  | b :: rest =>
    if b = Text.cr ∧ rest.head? = some Text.lf then lineFeeds rest else b :: lineFeeds rest

theorem lineFeeds_cons_of_ne {b : UInt8} (hb : b ≠ Text.cr) (rest : Text) :
    lineFeeds (b :: rest) = b :: lineFeeds rest := by
  rw [lineFeeds, if_neg fun h => hb h.1]

theorem lineFeeds_of_not_mem {s : Text} (h : Text.lf ∉ s) : lineFeeds s = s := by
  induction s with
  | nil => rfl
  | cons b rest ih =>
    have hrest : Text.lf ∉ rest := fun hmem => h (List.mem_cons_of_mem b hmem)
    have hhead : ¬ (b = Text.cr ∧ rest.head? = some Text.lf) := fun hb => hrest (List.mem_of_mem_head? hb.2)
    rw [lineFeeds, if_neg hhead, ih hrest]

theorem lineFeeds_of_no_pair {s : Text} (h : ¬ [Text.cr, Text.lf] <:+: s) : lineFeeds s = s := by
  induction s with
  | nil => rfl
  | cons b rest ih =>
    have hrest : ¬ [Text.cr, Text.lf] <:+: rest := fun hi => h (hi.trans (List.suffix_cons b rest).isInfix)
    have hhead : ¬ (b = Text.cr ∧ rest.head? = some Text.lf) := by
      rintro ⟨rfl, hlf⟩
      obtain ⟨c, tail, rfl⟩ : ∃ c tail, rest = c :: tail := by
        cases rest with
        | nil => cases hlf
        | cons c tail => exact ⟨c, tail, rfl⟩
      obtain rfl : c = Text.lf := by simpa using hlf
      exact h ⟨[], tail, rfl⟩
    rw [lineFeeds, if_neg hhead, ih hrest]

theorem mem_lf_lineFeeds {s : Text} : Text.lf ∈ lineFeeds s ↔ Text.lf ∈ s := by
  induction s with
  | nil => rfl
  | cons b rest ih =>
    rw [lineFeeds]
    split
    · next h =>
      have hne : Text.lf ≠ b := h.1 ▸ by decide
      rw [ih, List.mem_cons, or_iff_right hne]
    · simp [ih]

/-- Texts may be joined unless a carriage return and a line feed meet. -/
theorem lineFeeds_append {s t : Text} (h : t.head? ≠ some Text.lf ∨ s.getLast? ≠ some Text.cr) :
    lineFeeds (s ++ t) = lineFeeds s ++ lineFeeds t := by
  induction s with
  | nil => rfl
  | cons b s ih =>
    have hlater : t.head? ≠ some Text.lf ∨ s.getLast? ≠ some Text.cr := by
      refine h.imp_right fun hlast hs => hlast ?_
      rw [List.getLast?_cons, hs]
      rfl
    have hhead : b = Text.cr → ((s ++ t).head? = some Text.lf ↔ s.head? = some Text.lf) := by
      rintro rfl
      cases s with
      | nil => simpa using h
      | cons c s => rfl
    rw [List.cons_append, lineFeeds, lineFeeds, ih hlater]
    by_cases hb : b = Text.cr
    · simp only [hb, true_and, hhead hb]
      split <;> rfl
    · simp [hb]

/-- The loop of `normalize`: only a carriage return at the very end is lost besides. -/
theorem normalizeFrom_eq (content : Text) : ∀ seen : Text, content.getLast? ≠ some Text.cr →
    normalizeFrom seen content = seen.reverse ++ lineFeeds content := by
  intro seen h
  fun_induction normalizeFrom seen content with
  | case1 seen => simp [lineFeeds]
  | case2 seen => simp at h
  | case3 seen b hb => simp [lineFeeds]
  | case4 seen b c rest hbc ih =>
    have hpair : b = Text.cr ∧ c = Text.lf := by simpa using hbc
    rw [ih (by simpa using h), lineFeeds.eq_def (b :: c :: rest)]
    simp [hpair]
  | case5 seen b c rest hbc ih =>
    have hpair : ¬ (b = Text.cr ∧ c = Text.lf) := by simpa using hbc
    rw [ih (by simpa using h), lineFeeds.eq_def (b :: c :: rest)]
    simp [hpair]

theorem normalize_eq {content : Text} (h : content.getLast? ≠ some Text.cr) : normalize content = lineFeeds content :=
  normalizeFrom_eq content [] h

/-! ## written fields -/

/-- The text with its quotes doubled. -/
def escape (field : Text) : Text := field.flatMap fun b => if b = Text.quote then [b, b] else [b]

theorem escape_cons (b : UInt8) (field : Text) :
    escape (b :: field) = if b = Text.quote then b :: b :: escape field else b :: escape field := by
  unfold escape
  rw [List.flatMap_cons]
  split <;> rfl

theorem head?_escape (field : Text) : (escape field).head? = field.head? := by
  cases field with
  | nil => rfl
  | cons b field =>
    rw [escape_cons]
    split <;> rfl

theorem writeField_of_quotes {field : Text} (h : needsQuotes field = true) :
    writeField field = Text.quote :: (escape field ++ [Text.quote]) := by
  simp [writeField, h, escape]

theorem writeField_of_plain {field : Text} (h : needsQuotes field = false) : writeField field = field := by
  simp [writeField, h]

theorem needsQuotes_of_mem {field : Text} {b : UInt8} (hmem : b ∈ field) (hb : isSpecial b = true) :
    needsQuotes field = true := by
  have hany : field.any isSpecial = true := List.any_eq_true.2 ⟨b, hmem, hb⟩
  simp [needsQuotes, hany]

theorem not_special_of_plain {field : Text} (h : needsQuotes field = false) : ∀ b ∈ field, isSpecial b = false := by
  intro b hmem
  by_contra hb
  rw [Bool.not_eq_false] at hb
  rw [needsQuotes_of_mem hmem hb] at h
  cases h

theorem plain_no_line_end {field : Text} (h : needsQuotes field = false) : Text.lf ∉ field ∧ Text.cr ∉ field :=
  ⟨fun hmem => absurd (not_special_of_plain h _ hmem) (by decide),
    fun hmem => absurd (not_special_of_plain h _ hmem) (by decide)⟩

theorem lineFeeds_escape (field : Text) : lineFeeds (escape field) = escape (lineFeeds field) := by
  induction field with
  | nil => rfl
  | cons b field ih =>
    by_cases hb : b = Text.quote
    · subst hb
      have hquote : Text.quote ≠ Text.cr := by decide
      rw [escape_cons, if_pos rfl, lineFeeds_cons_of_ne hquote, lineFeeds_cons_of_ne hquote,
        lineFeeds_cons_of_ne hquote, escape_cons, if_pos rfl, ih]
    · rw [escape_cons, if_neg hb, lineFeeds, lineFeeds, head?_escape, ih]
      split
      · rfl
      · rw [escape_cons, if_neg hb]

theorem needsQuotes_lineFeeds (field : Text) : needsQuotes (lineFeeds field) = needsQuotes field := by
  by_cases hlf : Text.lf ∈ field
  · rw [needsQuotes_of_mem hlf (by decide), needsQuotes_of_mem (mem_lf_lineFeeds.2 hlf) (by decide)]
  · rw [lineFeeds_of_not_mem hlf]

theorem lineFeeds_writeField (field : Text) : lineFeeds (writeField field) = writeField (lineFeeds field) := by
  cases hq : needsQuotes field with
  | true =>
    have hq' : needsQuotes (lineFeeds field) = true := (needsQuotes_lineFeeds field).trans hq
    have happend : lineFeeds (escape field ++ [Text.quote]) = lineFeeds (escape field) ++ [Text.quote] :=
      lineFeeds_append (.inl (by decide))
    rw [writeField_of_quotes hq, writeField_of_quotes hq', lineFeeds_cons_of_ne (by decide), happend, lineFeeds_escape]
  | false =>
    have hsame : lineFeeds field = field := lineFeeds_of_not_mem (plain_no_line_end hq).1
    rw [writeField_of_plain hq, hsame, writeField_of_plain hq]

/-- A written field ends in a quote or has no line end. -/
theorem getLast?_writeField (field : Text) : (writeField field).getLast? ≠ some Text.cr := by
  cases hq : needsQuotes field with
  | true =>
    rw [writeField_of_quotes hq, ← List.cons_append, List.getLast?_concat]
    decide
  | false =>
    rw [writeField_of_plain hq]
    exact fun hlast => (plain_no_line_end hq).2 (List.mem_of_getLast? hlast)

theorem lineFeeds_writeField_append (field : Text) {b : UInt8} (hb : b ≠ Text.cr) (rest : Text) :
    lineFeeds (writeField field ++ b :: rest) = writeField (lineFeeds field) ++ b :: lineFeeds rest := by
  rw [lineFeeds_append (.inr (getLast?_writeField field)), lineFeeds_writeField, lineFeeds_cons_of_ne hb]

/-! ## written rows -/

theorem writeRow_singleton (field : Text) : writeRow [field] = writeField field ++ [Text.lf] := by
  simp [writeRow, Text.join]

theorem writeRow_cons_cons (field next : Text) (fields : List Text) :
    writeRow (field :: next :: fields) = writeField field ++ Text.comma :: writeRow (next :: fields) := by
  simp [writeRow, Text.join]

theorem writeRows_cons (row : List Text) (rows : List (List Text)) :
    writeRows (row :: rows) = writeRow row ++ writeRows rows := List.flatMap_cons ..

theorem writeRows_append (rows rows' : List (List Text)) : writeRows (rows ++ rows') = writeRows rows ++ writeRows rows' :=
  List.flatMap_append ..

theorem lineFeeds_writeRow_append {fields : List Text} (hne : fields ≠ []) (rest : Text) :
    lineFeeds (writeRow fields ++ rest) = writeRow (fields.map lineFeeds) ++ lineFeeds rest := by
  induction fields with
  | nil => exact absurd rfl hne
  | cons field fields ih =>
    cases fields with
    | nil =>
      rw [List.map_singleton, writeRow_singleton, writeRow_singleton, List.append_assoc, List.append_assoc,
        List.singleton_append, lineFeeds_writeField_append field (by decide)]
      rfl
    | cons next fields =>
      have hih := ih (by simp)
      rw [List.map_cons, List.map_cons, writeRow_cons_cons, writeRow_cons_cons, List.append_assoc, List.append_assoc,
        List.cons_append, lineFeeds_writeField_append field (by decide), hih]
      rfl

theorem lineFeeds_writeRows {rows : List (List Text)} (hne : ∀ row ∈ rows, row ≠ []) :
    lineFeeds (writeRows rows) = writeRows (rows.map (·.map lineFeeds)) := by
  induction rows with
  | nil => rfl
  | cons row rows ih =>
    rw [List.forall_mem_cons] at hne
    rw [List.map_cons, writeRows_cons, writeRows_cons, lineFeeds_writeRow_append hne.1, ih hne.2]

theorem getLast?_writeRows (rows : List (List Text)) : (writeRows rows).getLast? ≠ some Text.cr := by
  rcases List.eq_nil_or_concat rows with rfl | ⟨front, row, rfl⟩
  · simp [writeRows]
  · rw [List.concat_eq_append, writeRows_append, writeRows, writeRows, List.flatMap_singleton, writeRow,
      ← List.append_assoc, List.getLast?_concat]
    decide

/-- **Line ends commute with quoting.** -/
theorem normalize_writeRows {rows : List (List Text)} (hne : ∀ row ∈ rows, row ≠ []) :
    normalize (writeRows rows) = writeRows (rows.map (·.map lineFeeds)) := by
  rw [normalize_eq (getLast?_writeRows rows), lineFeeds_writeRows hne]

/-! ## the machine on written fields -/

/-- A strict reader of rows with `n` fields. -/
abbrev strict (n : Nat) : Dialect := { fieldCount := some n }

/-- The reader is in a mode with a field, fields and rows, all last first, at any position. -/
structure State.At (mode : Mode) (field : Text) (fields : List Text) (rows : List (List Text)) (st : State) : Prop where
  mode : st.mode = mode
  field : st.field = field
  fields : st.fields.map Field.text = fields
  rows : st.rows.map (·.map Field.text) = rows

/-- The reader comes from one state to another by some bytes, whatever follows them. -/
def Passes (n : Nat) (st : State) (bytes : Text) (st' : State) : Prop :=
  ∀ rest, readFrom (strict n) 0 st (bytes ++ rest) = readFrom (strict n) 0 st' rest

theorem Passes.append {n : Nat} {st st' st'' : State} {bytes bytes' : Text} (h : Passes n st bytes st')
    (h' : Passes n st' bytes' st'') : Passes n st (bytes ++ bytes') st'' := by
  intro rest
  rw [List.append_assoc, h, h']

section Machine

variable {n : Nat} {st : State} {field : Text} {fields : List Text} {rows : List (List Text)}

theorem isSpecial_eq_false {b : UInt8} (h : isSpecial b = false) :
    b ≠ Text.comma ∧ b ≠ Text.quote ∧ b ≠ Text.cr ∧ b ≠ Text.lf := by
  simpa [isSpecial, and_assoc] using h

/-- Bytes that need no quotes are kept. -/
theorem passes_plain {bytes : Text} (hbytes : ∀ b ∈ bytes, isSpecial b = false) :
    ∀ {st : State} {field : Text}, st.At .plain field fields rows →
      ∃ st', st'.At .plain (bytes.reverse ++ field) fields rows ∧ Passes n st bytes st' := by
  induction bytes with
  | nil => exact fun {st} _ h => ⟨st, h, fun _ => rfl⟩
  | cons b bytes ih =>
    intro st field h
    rw [List.forall_mem_cons] at hbytes
    obtain ⟨hcomma, hquote, -, hlf⟩ := isSpecial_eq_false hbytes.1
    have hkept : ((st.keep b).next .plain).At .plain (b :: field) fields rows :=
      ⟨rfl, congrArg _ h.field, h.fields, h.rows⟩
    obtain ⟨st', hat, hpass⟩ := ih hbytes.2 hkept
    refine ⟨st', by simpa using hat, fun rest => ?_⟩
    rw [List.cons_append, ← hpass rest, readFrom.eq_def]
    simp [h.mode, hcomma, hquote, hlf]

/-- Another byte is kept between quotes. A line feed starts a new line. -/
def State.keepQuoted (st : State) (b : UInt8) : State :=
  if b = Text.lf then (st.keep b).nextLine .quoted else (st.keep b).next .quoted

theorem State.At.keepQuoted (h : st.At .quoted field fields rows) (b : UInt8) :
    (st.keepQuoted b).At .quoted (b :: field) fields rows := by
  unfold State.keepQuoted
  split
  · exact ⟨rfl, congrArg _ h.field, h.fields, h.rows⟩
  · exact ⟨rfl, congrArg _ h.field, h.fields, h.rows⟩

/-- Between quotes every byte is kept, and two quotes in a row are one. -/
theorem passes_escape (bytes : Text) :
    ∀ {st : State} {field : Text}, st.At .quoted field fields rows →
      ∃ st', st'.At .quoteSeen (bytes.reverse ++ field) fields rows ∧
        Passes n st (escape bytes ++ [Text.quote]) st' := by
  induction bytes with
  | nil =>
    intro st field h
    refine ⟨st.next .quoteSeen, ⟨rfl, h.field, h.fields, h.rows⟩, fun rest => ?_⟩
    simp [escape, readFrom.eq_def _ _ st, h.mode]
  | cons b bytes ih =>
    intro st field h
    by_cases hb : b = Text.quote
    · subst hb
      -- of a doubled quote the first seems to close the field; the second takes that back and is kept
      have hkept : (((st.next .quoteSeen).keep Text.quote).next .quoted).At .quoted (Text.quote :: field) fields rows :=
        ⟨rfl, congrArg _ h.field, h.fields, h.rows⟩
      obtain ⟨st', hat, hpass⟩ := ih hkept
      refine ⟨st', by simpa using hat, fun rest => ?_⟩
      rw [← hpass rest, escape_cons, if_pos rfl, List.cons_append, List.cons_append, List.cons_append,
        List.cons_append, readFrom.eq_def _ _ st]
      simp only [h.mode, if_true]
      rw [readFrom.eq_def]
      simp [State.next]
    · obtain ⟨st', hat, hpass⟩ := ih (h.keepQuoted b)
      refine ⟨st', by simpa using hat, fun rest => ?_⟩
      -- at least the quote at the end follows
      have hfollowed : (escape bytes ++ [Text.quote] ++ rest).isEmpty = false := by cases escape bytes <;> rfl
      rw [← hpass rest, escape_cons, if_neg hb, List.cons_append, List.cons_append, readFrom.eq_def _ _ st]
      simp only [h.mode, if_neg hb, hfollowed, Bool.not_false, Bool.and_true, decide_eq_true_eq, State.keepQuoted]
      split <;> rfl

/-- A field has been read and what stands behind it ends it. -/
def State.Behind (field : Text) (fields : List Text) (rows : List (List Text)) (st : State) : Prop :=
  ∃ mode, (mode = .fieldStart ∧ field = [] ∨ mode = .plain ∨ mode = .quoteSeen) ∧ st.At mode field.reverse fields rows

/-- **A written field is read back.** -/
theorem passes_writeField (hst : st.At .fieldStart [] fields rows) (field : Text) :
    ∃ st', st'.Behind field fields rows ∧ Passes n st (writeField field) st' := by
  cases hq : needsQuotes field with
  | true =>
    have hopen : ({ st.next .quoted with fieldLine := st.line } : State).At .quoted [] fields rows :=
      ⟨rfl, hst.field, hst.fields, hst.rows⟩
    obtain ⟨st', hat, hpass⟩ := passes_escape (n := n) field hopen
    refine ⟨st', ⟨.quoteSeen, .inr (.inr rfl), by simpa using hat⟩, fun rest => ?_⟩
    rw [writeField_of_quotes hq, List.cons_append, ← hpass rest, readFrom.eq_def _ _ st]
    simp [hst.mode]
  | false =>
    rw [writeField_of_plain hq]
    have hplain := not_special_of_plain hq
    cases field with
    | nil => exact ⟨st, ⟨.fieldStart, .inl ⟨rfl, rfl⟩, hst⟩, fun _ => rfl⟩
    | cons b field =>
      rw [List.forall_mem_cons] at hplain
      obtain ⟨hcomma, hquote, -, hlf⟩ := isSpecial_eq_false hplain.1
      have hfirst : (({ st with fieldLine := st.line }.keep b).next .plain).At .plain [b] fields rows :=
        ⟨rfl, congrArg _ hst.field, hst.fields, hst.rows⟩
      obtain ⟨st', hat, hpass⟩ := passes_plain (n := n) hplain.2 hfirst
      refine ⟨st', ⟨.plain, .inr (.inl rfl), by simpa using hat⟩, fun rest => ?_⟩
      rw [List.cons_append, ← hpass rest, readFrom.eq_def _ _ st]
      simp [hst.mode, hcomma, hquote, hlf]

theorem State.At.endField {mode : Mode} (h : st.At mode field.reverse fields rows) (line : Nat) :
    ({ st with fieldLine := line }.endField.next .fieldStart).At .fieldStart [] (field :: fields) rows :=
  ⟨rfl, rfl, by simp [State.next, State.endField, h.field, h.fields], h.rows⟩

theorem State.At.endRow {mode : Mode} (h : st.At mode field.reverse fields rows) (line : Nat) :
    ({ st with fieldLine := line }.endRow).At .rowStart [] [] ((field :: fields).reverse :: rows) :=
  ⟨rfl, rfl, rfl, by simp [State.endRow, State.endField, h.field, h.rows, ← h.fields]⟩

theorem passes_comma (hst : st.Behind field fields rows) :
    ∃ st', st'.At .fieldStart [] (field :: fields) rows ∧ Passes n st [Text.comma] st' := by
  have hquote : Text.comma ≠ Text.quote := by decide
  obtain ⟨mode, hmode, hat⟩ := hst
  -- only an empty field takes its line from the comma
  rcases hmode with ⟨rfl, -⟩ | hmode
  · refine ⟨_, hat.endField st.line, fun rest => ?_⟩
    rw [List.singleton_append, readFrom.eq_def]
    simp [hat.mode, hquote]
  · refine ⟨st.endField.next .fieldStart, hat.endField st.fieldLine, fun rest => ?_⟩
    rw [List.singleton_append, readFrom.eq_def]
    rcases hmode with rfl | rfl <;> simp [hat.mode, hquote]

theorem passes_lf (hst : st.Behind field fields rows) (hcount : fields.length + 1 = n) :
    ∃ st', st'.At .rowStart [] [] ((field :: fields).reverse :: rows) ∧ Passes n st [Text.lf] st' := by
  have hquote : Text.lf ≠ Text.quote := by decide
  have hcomma : Text.lf ≠ Text.comma := by decide
  obtain ⟨mode, hmode, hat⟩ := hst
  have hlength : st.fields.length = fields.length := by rw [← hat.fields, List.length_map]
  have hfull : st.miscounted (strict n) = false := by simp [State.miscounted, hlength, hcount]
  rcases hmode with ⟨rfl, -⟩ | hmode
  · refine ⟨_, hat.endRow st.line, fun rest => ?_⟩
    rw [List.singleton_append, readFrom.eq_def]
    simp [hat.mode, hquote, hcomma, hfull]
  · refine ⟨st.endRow, hat.endRow st.fieldLine, fun rest => ?_⟩
    rw [List.singleton_append, readFrom.eq_def]
    rcases hmode with rfl | rfl <;> simp [hat.mode, hquote, hcomma, hfull]

/-- The fields of a row are read one by one. -/
theorem passes_fields {row : List Text} (hne : row ≠ []) :
    ∀ {st : State} {fields : List Text}, st.At .fieldStart [] fields rows → fields.length + row.length = n →
      ∃ st', st'.At .rowStart [] [] ((fields.reverse ++ row) :: rows) ∧ Passes n st (writeRow row) st' := by
  induction row with
  | nil => exact absurd rfl hne
  | cons field row ih =>
    intro st fields hst hcount
    obtain ⟨behind, hbehind, hfield⟩ := passes_writeField (n := n) hst field
    cases row with
    | nil =>
      obtain ⟨st', hat, hlf⟩ := passes_lf hbehind hcount
      rw [writeRow_singleton]
      exact ⟨st', by simpa using hat, hfield.append hlf⟩
    | cons next row =>
      obtain ⟨mid, hmid, hcomma⟩ := passes_comma (n := n) hbehind
      obtain ⟨st', hat, hrow⟩ := ih (by simp) hmid (by simp at hcount ⊢; omega)
      rw [writeRow_cons_cons]
      exact ⟨st', by simpa using hat, hfield.append (hcomma.append hrow)⟩

/-- A row starts like a field, unless its line is empty or a comment. -/
theorem readFrom_rowStart {d : Dialect} (hst : st.mode = .rowStart) {b : UInt8} (hb : b ≠ Text.lf)
    (hcomment : d.comment ≠ some b) (rest : Text) :
    readFrom d 0 st (b :: rest) = readFrom d 0 { st with mode := .fieldStart, startLine := st.line } (b :: rest) := by
  rw [readFrom.eq_def, readFrom.eq_def]
  simp [hst, hb, hcomment]
  rfl

theorem writeRow_head {row : List Text} (h : 2 ≤ row.length) : ∃ b rest, writeRow row = b :: rest ∧ b ≠ Text.lf := by
  obtain ⟨field, next, fields, rfl⟩ : ∃ field next fields, row = field :: next :: fields := by
    cases row with
    | nil => simp at h
    | cons field row =>
      cases row with
      | nil => simp at h
      | cons next fields => exact ⟨field, next, fields, rfl⟩
  rw [writeRow_cons_cons]
  cases hq : needsQuotes field with
  | true =>
    rw [writeField_of_quotes hq]
    exact ⟨Text.quote, _, rfl, by decide⟩
  | false =>
    rw [writeField_of_plain hq]
    cases field with
    | nil => exact ⟨Text.comma, _, rfl, by decide⟩
    | cons b field =>
      exact ⟨b, _, rfl, fun hb => (plain_no_line_end hq).1 (hb ▸ List.mem_cons_self ..)⟩

/-- **A written row is read back.** -/
theorem passes_writeRow (hst : st.At .rowStart [] [] rows) {row : List Text} (hrow : row.length = n) (hn : 2 ≤ n) :
    ∃ st', st'.At .rowStart [] [] (row :: rows) ∧ Passes n st (writeRow row) st' := by
  have hstart : ({ st with mode := .fieldStart, startLine := st.line } : State).At .fieldStart [] [] rows :=
    ⟨rfl, hst.field, hst.fields, hst.rows⟩
  have hne : row ≠ [] := List.ne_nil_of_length_pos (by omega)
  obtain ⟨st', hat, hpass⟩ := passes_fields hne hstart (by simpa using hrow)
  refine ⟨st', by simpa using hat, fun rest => ?_⟩
  obtain ⟨b, tail, hcons, hb⟩ := writeRow_head (show 2 ≤ row.length by omega)
  rw [← hpass rest, hcons, List.cons_append, readFrom_rowStart hst.mode hb (by simp)]

theorem passes_writeRows (hn : 2 ≤ n) {written : List (List Text)} (hlength : ∀ row ∈ written, row.length = n) :
    ∀ {st : State} {rows : List (List Text)}, st.At .rowStart [] [] rows →
      ∃ st', st'.At .rowStart [] [] (written.reverse ++ rows) ∧ Passes n st (writeRows written) st' := by
  induction written with
  | nil => exact fun {st} _ hst => ⟨st, hst, fun _ => rfl⟩
  | cons row written ih =>
    intro st rows hst
    rw [List.forall_mem_cons] at hlength
    obtain ⟨mid, hmid, hrow⟩ := passes_writeRow hst hlength.1 hn
    obtain ⟨st', hat, hrows⟩ := ih hlength.2 hmid
    rw [writeRows_cons]
    exact ⟨st', by simpa using hat, hrow.append hrows⟩

end Machine

/-- **Written rows are read back**, with line feeds for line ends. One field alone would not do, since a row of one
empty field is an empty line. -/
theorem read_writeRows {n : Nat} (hn : 2 ≤ n) {rows : List (List Text)} (hlength : ∀ row ∈ rows, row.length = n) :
    (read (strict n) (writeRows rows)).error = none ∧
      (read (strict n) (writeRows rows)).rows.map (·.map Field.text) = rows.map (·.map lineFeeds) := by
  have hne : ∀ row ∈ rows, row ≠ [] := fun row hrow => List.ne_nil_of_length_pos (by rw [hlength row hrow]; omega)
  have hlength' : ∀ row ∈ rows.map (·.map lineFeeds), row.length = n := by
    intro row hrow
    obtain ⟨row', hrow', rfl⟩ := List.mem_map.1 hrow
    rw [List.length_map, hlength row' hrow']
  have hstart : ({} : State).At .rowStart [] [] [] := ⟨rfl, rfl, rfl, rfl⟩
  obtain ⟨st', hat, hpass⟩ := passes_writeRows hn hlength' hstart
  have hread : read (strict n) (writeRows rows) = st'.finish none := by
    have hend := hpass []
    rw [List.append_nil] at hend
    rw [read, normalize_writeRows hne, hend, readFrom.eq_def]
    simp [hat.mode]
  rw [hread]
  refine ⟨rfl, ?_⟩
  rw [State.finish, List.map_reverse, hat.rows, List.append_nil, List.reverse_reverse]

/-! ## rows as long as the first -/

/-- The rows of a content, where every row must have as many fields as the first. -/
def readUniform (content : Text) : Reading :=
  match (read {} content).rows.head? with
  | none => read {} content
  | some row => read (strict row.length) content

theorem State.miscounted_none (d : Dialect) (st : State) : st.miscounted { d with fieldCount := none } = false := rfl

theorem State.error_miscount (st : State) : st.miscount.error ≠ none := by simp [miscount, finish]

/-- Without a miscounted row, the number of fields asked for does not show. -/
theorem readFrom_uncounted {d : Dialect} {n : Nat} (content : Text) : ∀ (skip : Nat) (st : State),
    (readFrom { d with fieldCount := some n } skip st content).error = none →
      readFrom { d with fieldCount := none } skip st content = readFrom { d with fieldCount := some n } skip st content := by
  induction content with
  | nil =>
    intro skip st h
    unfold readFrom at h ⊢
    cases hmode : st.mode <;> simp only [hmode] at h ⊢ <;> grind [State.miscounted_none, State.error_miscount]
  | cons b rest ih =>
    intro skip st h
    unfold readFrom at h ⊢
    cases skip with
    | succ skip => exact ih _ _ h
    | zero =>
      cases hmode : st.mode <;> simp only [hmode] at h ⊢ <;> grind [State.miscounted_none, State.error_miscount]

/-- **Written rows are read back**, when the first of them says how many fields a row has. -/
theorem readUniform_writeRows {n : Nat} (hn : 2 ≤ n) {rows : List (List Text)} (hlength : ∀ row ∈ rows, row.length = n) :
    (readUniform (writeRows rows)).error = none ∧
      (readUniform (writeRows rows)).rows.map (·.map Field.text) = rows.map (·.map lineFeeds) := by
  obtain ⟨herror, hrows⟩ := read_writeRows hn hlength
  have hsame : read {} (writeRows rows) = read (strict n) (writeRows rows) :=
    @readFrom_uncounted {} n (normalize (writeRows rows)) 0 {} herror
  have huniform : readUniform (writeRows rows) = read (strict n) (writeRows rows) := by
    unfold readUniform
    rw [hsame]
    cases hread : (read (strict n) (writeRows rows)).rows with
    | nil => rfl
    | cons row _ =>
      -- the first row read is as long as the first row written
      rw [hread, List.map_cons] at hrows
      cases rows with
      | nil => cases hrows
      | cons first rows =>
        have hfirst := congrArg List.length (List.cons.inj hrows).1
        rw [List.length_map, List.length_map, hlength first (List.mem_cons_self ..)] at hfirst
        simp only [List.head?_cons, hfirst]
  rw [huniform]
  exact ⟨herror, hrows⟩

end CastAudit.Csv
