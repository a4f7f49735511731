import CastAudit.Proofs.Csv.RoundTrip
import CastAudit.Proofs.Text.Characters
import CastAudit.Proofs.Text.Lines

/-!
# Reading line by line

A tolerant reader takes a file line by line, unless a line leaves a quote open.

* `Place` — where in a row the reader stands and what it has of that row, and `Place.run` — where it stands behind some
  bytes of a line;
* `readFrom_step` — one byte takes the reader to the next place, and `readFrom_run` — so does a line;
* `lineEnd d line` — the place behind a line, and `lineRows d line` — the rows of a line that is read alone;
* `read_unlines` — the rows of lines that close their quotes are those of the single lines;
* `read_unlines_open` — behind a line that leaves a quote open, all that is left of the file is one field.
-/

namespace CastAudit.Csv

/-! ## white space -/

theorem leading_take (b : UInt8) (rest : Text) : Text.leading b (rest.take 3) = Text.leading b rest := by
  unfold Text.leading
  rcases rest with _ | ⟨c, _ | ⟨d, _ | ⟨e, rest⟩⟩⟩ <;> rfl

/-- The size of the white space at the front, from the leading piece. -/
theorem blankSize_eq {b : UInt8} (hb : b ≠ Text.lf) (rest : Text) : blankSize (b :: rest) =
    if (Text.leading b rest).isBlank then (Text.leading b rest).bytes.length else 0 := by
  have hhead : (Text.pieces ((b :: rest).take 4)).head? = some (Text.leading b rest) := by
    rw [List.take_succ_cons, Text.pieces_cons, List.head?_cons, leading_take]
  simp only [blankSize, if_neg hb, Text.startsBlank, hhead, Option.map_some, Option.getD_some]

/-- White space at the front of a line ends in the line. -/
theorem blankSize_append {b : UInt8} (hb : b ≠ Text.lf) (line rest : Text) :
    blankSize (b :: (line ++ Text.lf :: rest)) = blankSize (b :: line) := by
  rw [blankSize_eq hb, blankSize_eq hb, Text.leading_append b line (Text.startsFresh_ascii (by decide) rest)]

/-- Behind its first byte, white space at the front of a line has its other bytes there. -/
theorem blankSize_le {b : UInt8} (hb : b ≠ Text.lf) (line : Text) : blankSize (b :: line) - 1 ≤ line.length := by
  have hprefix := (Text.leading_bytes_isPrefix b line).length_le
  rw [List.length_cons] at hprefix
  rw [blankSize_eq hb]
  split <;> omega

/-! ## places -/

/-- Where in a row the reader stands, with the field under way, last byte first, and the fields before it, last first. -/
structure Place where
  mode : Mode := .rowStart
  field : Text := []
  fields : List Text := []
deriving DecidableEq

namespace Place

/-- The place behind the end of a field. -/
def endField (p : Place) : Place := ⟨.fieldStart, [], p.field.reverse :: p.fields⟩

/-- The place behind a byte that is kept. -/
def keep (p : Place) (mode : Mode) (b : UInt8) : Place := ⟨mode, b :: p.field, p.fields⟩

/-- The place behind the first byte of a field, with the number of bytes of white space to be passed besides. The byte
and what follows it start with `blanks` bytes of white space. -/
def start (d : Dialect) (blanks : Nat) (b : UInt8) (p : Place) : Place × Nat :=
  if d.trimStart && 0 < blanks then ({ p with mode := .fieldStart }, blanks - 1)
  else if b = Text.quote then ({ p with mode := .quoted }, 0)
  else if b = Text.comma then (p.endField, 0)
  else (p.keep .plain b, 0)

/-- The place behind a byte that does not end a line. -/
def step (d : Dialect) (blanks : Nat) (b : UInt8) (p : Place) : Place × Nat :=
  match p.mode with
  | .rowStart => if d.comment == some b then ({ p with mode := .comment }, 0) else p.start d blanks b
  | .comment => (p, 0)
  | .fieldStart => p.start d blanks b
  | .plain => (if b = Text.comma then p.endField else p.keep .plain b, 0)
  | .quoted => (if b = Text.quote then { p with mode := .quoteSeen } else p.keep .quoted b, 0)
  | .quoteSeen =>
    (if b = Text.quote then p.keep .quoted b
      else if b = Text.comma then p.endField
      else (p.keep .quoted Text.quote).keep .quoted b, 0)

/-- The place behind some bytes of a line. -/
def run (d : Dialect) : Nat → Place → Text → Place
  | _, p, [] => p
  | skip + 1, p, _ :: line => run d skip p line
  | 0, p, b :: line => run d (p.step d (blankSize (b :: line)) b).2 (p.step d (blankSize (b :: line)) b).1 line

/-- The rows that the end of the line finishes. -/
def rows (p : Place) : List (List Text) :=
  match p.mode with
  | .rowStart | .comment | .quoted => []
  | .fieldStart | .plain | .quoteSeen => [p.fields.reverse ++ [p.field.reverse]]

/-- They are one at most. -/
theorem reverse_rows (p : Place) : p.rows.reverse = p.rows := by
  unfold rows
  split <;> rfl

/-! ### what a line keeps -/

/-- No field has a line feed, and between rows there are none. -/
structure Sound (p : Place) : Prop where
  field : Text.lf ∉ p.field
  fields : ∀ f ∈ p.fields, Text.lf ∉ f
  blank : p.mode = .rowStart ∨ p.mode = .comment → p.field = [] ∧ p.fields = []

/-- The reader is not in a field with quotes. -/
def Bare (p : Place) : Prop := p.mode ≠ .quoted ∧ p.mode ≠ .quoteSeen

theorem Sound.endField {p : Place} (h : p.Sound) : p.endField.Sound where
  field := List.not_mem_nil
  fields := List.forall_mem_cons.2 ⟨by rw [List.mem_reverse]; exact h.field, h.fields⟩
  blank := nofun

theorem Sound.keep {p : Place} (h : p.Sound) {mode : Mode} (hmode : mode = .plain ∨ mode = .quoted) {b : UInt8}
    (hb : b ≠ Text.lf) : (p.keep mode b).Sound where
  field := List.not_mem_cons_of_ne_of_not_mem hb.symm h.field
  fields := h.fields
  blank := by
    rintro (rfl | rfl) <;> cases hmode <;> contradiction

theorem Sound.start {p : Place} (h : p.Sound) (d : Dialect) (blanks : Nat) {b : UInt8} (hb : b ≠ Text.lf) :
    (p.start d blanks b).1.Sound := by
  unfold Place.start
  split
  · exact ⟨h.field, h.fields, nofun⟩
  · split
    · exact ⟨h.field, h.fields, nofun⟩
    · split
      · exact h.endField
      · exact h.keep (.inl rfl) hb

/-- A byte that does not end a line leaves the fields without line feeds. -/
theorem Sound.step {p : Place} (h : p.Sound) (d : Dialect) (blanks : Nat) {b : UInt8} (hb : b ≠ Text.lf) :
    (p.step d blanks b).1.Sound := by
  unfold Place.step
  split
  · next hmode =>
    split
    · exact ⟨h.field, h.fields, fun _ => h.blank (.inl hmode)⟩
    · exact h.start d blanks hb
  · exact h
  · exact h.start d blanks hb
  · dsimp only
    split
    · exact h.endField
    · exact h.keep (.inl rfl) hb
  · dsimp only
    split
    · exact ⟨h.field, h.fields, nofun⟩
    · exact h.keep (.inr rfl) hb
  · dsimp only
    split
    · exact h.keep (.inr rfl) hb
    · split
      · exact h.endField
      · exact (h.keep (.inr rfl) (by decide)).keep (.inr rfl) hb

theorem Bare.start {p : Place} {d : Dialect} {blanks : Nat} {b : UInt8} (hb : b ≠ Text.quote) :
    (p.start d blanks b).1.Bare := by
  unfold Place.start
  split
  · exact ⟨nofun, nofun⟩
  · -- no quote opens the field
    split
    · exact ⟨nofun, nofun⟩
    · exact ⟨nofun, nofun⟩

theorem Bare.step {p : Place} (h : p.Bare) (d : Dialect) (blanks : Nat) {b : UInt8} (hb : b ≠ Text.quote) :
    (p.step d blanks b).1.Bare := by
  unfold Place.step
  split
  · split
    · exact ⟨nofun, nofun⟩
    · exact Bare.start hb
  · exact h
  · exact Bare.start hb
  · dsimp only
    split
    · exact ⟨nofun, nofun⟩
    · exact ⟨nofun, nofun⟩
  · next hmode => exact absurd hmode h.1
  · next hmode => exact absurd hmode h.2

theorem start_blanks_le (d : Dialect) (blanks : Nat) (b : UInt8) (p : Place) : (p.start d blanks b).2 ≤ blanks - 1 := by
  unfold Place.start
  repeat' split
  all_goals first | exact Nat.le_refl _ | exact Nat.zero_le _

/-- Only white space is passed. -/
theorem step_blanks_le (d : Dialect) (blanks : Nat) (b : UInt8) (p : Place) : (p.step d blanks b).2 ≤ blanks - 1 := by
  unfold Place.step
  split
  · split
    · exact Nat.zero_le _
    · exact start_blanks_le d blanks b p
  · exact Nat.zero_le _
  · exact start_blanks_le d blanks b p
  · exact Nat.zero_le _
  · exact Nat.zero_le _
  · exact Nat.zero_le _

theorem Sound.run {d : Dialect} {line : Text} (hline : Text.lf ∉ line) :
    ∀ {p : Place} {skip : Nat}, p.Sound → (Place.run d skip p line).Sound := by
  induction line with
  | nil => exact fun h => by rwa [Place.run]
  | cons b line ih =>
    intro p skip h
    obtain ⟨hb, hline⟩ := not_or.1 (List.mem_cons.not.1 hline)
    cases skip with
    | succ skip => exact ih hline h
    | zero => exact ih hline (h.step d _ (Ne.symm hb))

theorem Bare.run {d : Dialect} {line : Text} (hline : Text.quote ∉ line) :
    ∀ {p : Place} {skip : Nat}, p.Bare → (Place.run d skip p line).Bare := by
  induction line with
  | nil => exact fun h => by rwa [Place.run]
  | cons b line ih =>
    intro p skip h
    obtain ⟨hb, hline⟩ := not_or.1 (List.mem_cons.not.1 hline)
    cases skip with
    | succ skip => exact ih hline h
    | zero => exact ih hline (h.step d _ (Ne.symm hb))

end Place

/-! ## the reader -/

/-- Any number of fields and misplaced quotes pass. -/
structure Dialect.Tolerant (d : Dialect) : Prop where
  lenient : d.lenient = true
  fieldCount : d.fieldCount = none
  comment : d.comment ≠ some Text.lf

/-- The reader stands at a place, with some rows behind it, last first, whatever its position. -/
abbrev State.Stands (p : Place) (rows : List (List Text)) (st : State) : Prop := st.At p.mode p.field p.fields rows

section Reader

variable {d : Dialect} {p : Place} {rows : List (List Text)} {st : State}

theorem State.Stands.fromLine (h : st.Stands p rows) (line : Nat) : State.Stands p rows { st with fieldLine := line } :=
  ⟨h.mode, h.field, h.fields, h.rows⟩

theorem State.Stands.next (h : st.Stands p rows) (mode : Mode) : (st.next mode).Stands { p with mode } rows :=
  ⟨rfl, h.field, h.fields, h.rows⟩

theorem State.Stands.keep (h : st.Stands p rows) (mode : Mode) (b : UInt8) :
    ((st.keep b).next mode).Stands (p.keep mode b) rows :=
  ⟨rfl, congrArg _ h.field, h.fields, h.rows⟩

theorem State.Stands.endField (h : st.Stands p rows) : (st.endField.next .fieldStart).Stands p.endField rows :=
  ⟨rfl, rfl, by simp [State.next, State.endField, h.field, h.fields, Place.endField], h.rows⟩

/-- The first byte of a field. -/
theorem readFrom_start (h : st.At .fieldStart p.field p.fields rows) {b : UInt8} (hb : b ≠ Text.lf) (rest : Text) :
    ∃ st', st'.Stands (p.start d (blankSize (b :: rest)) b).1 rows ∧
      readFrom d 0 st (b :: rest) = readFrom d (p.start d (blankSize (b :: rest)) b).2 st' rest := by
  have hstands : State.Stands { p with mode := .fieldStart } rows st := h
  rw [readFrom.eq_def]
  simp only [h.mode, if_neg hb]
  unfold Place.start
  split
  · exact ⟨_, hstands.next .fieldStart, rfl⟩
  · split
    · exact ⟨_, (hstands.next .quoted).fromLine st.line, rfl⟩
    · split
      · exact ⟨_, (hstands.fromLine st.line).endField, rfl⟩
      · exact ⟨_, (hstands.fromLine st.line).keep .plain b, rfl⟩

/-- **One byte takes the reader to the next place**, if it does not end a line. -/
theorem readFrom_step (hd : d.Tolerant) (h : st.Stands p rows) {b : UInt8} (hb : b ≠ Text.lf) (rest : Text) :
    ∃ st', st'.Stands (p.step d (blankSize (b :: rest)) b).1 rows ∧
      readFrom d 0 st (b :: rest) = readFrom d (p.step d (blankSize (b :: rest)) b).2 st' rest := by
  have hlenient := hd.lenient
  cases hmode : p.mode with
  | rowStart =>
    simp only [Place.step, hmode]
    by_cases hcomment : d.comment = some b
    · rw [if_pos (by simpa using hcomment)]
      refine ⟨_, h.next .comment, ?_⟩
      rw [readFrom.eq_def]
      simp [h.mode, hmode, hcomment]
    · have hstart : ({ st with mode := .fieldStart, startLine := st.line } : State).At .fieldStart p.field p.fields rows :=
        ⟨rfl, h.field, h.fields, h.rows⟩
      rw [if_neg (by simpa using hcomment), readFrom_rowStart (h.mode.trans hmode) hb hcomment]
      exact readFrom_start hstart hb rest
  | comment =>
    simp only [Place.step, hmode]
    refine ⟨st.next .comment, ⟨hmode.symm, h.field, h.fields, h.rows⟩, ?_⟩
    rw [readFrom.eq_def]
    simp only [h.mode.trans hmode, if_neg hb]
  | fieldStart =>
    simp only [Place.step, hmode]
    exact readFrom_start (hmode ▸ h) hb rest
  | plain =>
    simp only [Place.step, hmode]
    rw [readFrom.eq_def]
    simp only [h.mode.trans hmode, if_neg hb, hlenient, Bool.not_true, Bool.and_false, Bool.false_eq_true, if_false]
    split
    · exact ⟨_, h.endField, rfl⟩
    · exact ⟨_, h.keep .plain b, rfl⟩
  | quoted =>
    simp only [Place.step, hmode]
    rw [readFrom.eq_def]
    simp only [h.mode.trans hmode, hb, decide_false, Bool.false_and, Bool.false_eq_true, if_false]
    split
    · exact ⟨_, h.next .quoteSeen, rfl⟩
    · exact ⟨_, h.keep .quoted b, rfl⟩
  | quoteSeen =>
    -- a quote that neither closes the field nor doubles another is kept
    have hkept : (((st.keep Text.quote).keep b).next .quoted).Stands ((p.keep .quoted Text.quote).keep .quoted b) rows :=
      ⟨rfl, congrArg (b :: Text.quote :: ·) h.field, h.fields, h.rows⟩
    simp only [Place.step, hmode]
    rw [readFrom.eq_def]
    simp only [h.mode.trans hmode, if_neg hb, hlenient, if_true]
    split
    · exact ⟨_, h.keep .quoted b, rfl⟩
    · split
      · exact ⟨_, h.endField, rfl⟩
      · exact ⟨_, hkept, rfl⟩

/-- **A line takes the reader to the place behind it.** -/
theorem readFrom_run (hd : d.Tolerant) {line : Text} (hline : Text.lf ∉ line) (rest : Text) :
    ∀ {p : Place} {skip : Nat} {st : State}, skip ≤ line.length → st.Stands p rows →
      ∃ st', st'.Stands (p.run d skip line) rows ∧
        readFrom d skip st (line ++ Text.lf :: rest) = readFrom d 0 st' (Text.lf :: rest) := by
  -- on the line, for every place in it: what the blanks at the start of a field still pass is skipped first
  induction line with
  | nil =>
    intro p skip st hskip h
    obtain rfl : skip = 0 := Nat.le_zero.1 hskip
    exact ⟨st, h, rfl⟩
  | cons b line ih =>
    intro p skip st hskip h
    obtain ⟨hb, hline⟩ := not_or.1 (List.mem_cons.not.1 hline)
    replace hb : b ≠ Text.lf := Ne.symm hb
    cases skip with
    | succ skip =>
      have hnext : (st.next st.mode).Stands p rows := ⟨h.mode, h.field, h.fields, h.rows⟩
      obtain ⟨st', hstands, hread⟩ := ih hline (Nat.le_of_succ_le_succ hskip) hnext
      exact ⟨st', hstands, hread⟩
    | zero =>
      obtain ⟨mid, hmid, hstep⟩ := readFrom_step hd h hb (line ++ Text.lf :: rest)
      rw [blankSize_append hb] at hmid hstep
      have hpassed := Nat.le_trans (Place.step_blanks_le d (blankSize (b :: line)) b p) (blankSize_le hb line)
      obtain ⟨st', hstands, hread⟩ := ih hline hpassed hmid
      exact ⟨st', hstands, hstep.trans hread⟩

/-- Behind an open quote everything without a quote is one field, up to the end of the file. -/
theorem readFrom_quoted (hd : d.Tolerant) {text : Text} (htext : Text.quote ∉ text) :
    ∀ {st : State} {field : Text} {fields : List Text}, st.At .quoted field fields rows →
      (readFrom d 0 st text).rows.map (·.map Field.text) =
        rows.reverse ++ [fields.reverse ++ [field.reverse ++ text]] := by
  induction text with
  | nil =>
    intro st field fields h
    rw [readFrom.eq_def]
    simp [h.mode, hd.lenient, State.miscounted, hd.fieldCount, State.finish, State.endRow, State.endField, h.field, h.rows,
      ← h.fields]
  | cons b text ih =>
    intro st field fields h
    obtain ⟨hb, htext⟩ := not_or.1 (List.mem_cons.not.1 htext)
    -- a line feed starts a new line, if anything follows it
    obtain ⟨st', hkept, hread⟩ : ∃ st' : State, st'.At .quoted (b :: field) fields rows ∧
        readFrom d 0 st (b :: text) = readFrom d 0 st' text := by
      rw [readFrom.eq_def]
      simp only [h.mode, if_neg (Ne.symm hb)]
      split
      · exact ⟨(st.keep b).nextLine .quoted, ⟨rfl, congrArg _ h.field, h.fields, h.rows⟩, rfl⟩
      · exact ⟨(st.keep b).next .quoted, ⟨rfl, congrArg _ h.field, h.fields, h.rows⟩, rfl⟩
    rw [hread, ih htext hkept]
    simp

theorem State.Stands.endRow (h : st.Stands p rows) :
    st.endRow.Stands {} ((p.fields.reverse ++ [p.field.reverse]) :: rows) :=
  ⟨rfl, rfl, rfl, by simp [State.endRow, State.endField, h.field, h.rows, ← h.fields]⟩

/-- A line feed behind closed quotes ends the row. -/
theorem readFrom_lf (hd : d.Tolerant) (h : st.Stands p rows) (hp : p.Sound) (hclosed : p.mode ≠ .quoted) (rest : Text) :
    ∃ st', st'.Stands {} (p.rows ++ rows) ∧ readFrom d 0 st (Text.lf :: rest) = readFrom d 0 st' rest := by
  have hcount (st : State) : st.miscounted d = false := by simp [State.miscounted, hd.fieldCount]
  have hcomment : (d.comment == some Text.lf) = false := by simpa using hd.comment
  have hquote : Text.lf ≠ Text.quote := by decide
  have hcomma : Text.lf ≠ Text.comma := by decide
  rw [readFrom.eq_def]
  unfold Place.rows
  cases hmode : p.mode with
  | rowStart =>
    obtain ⟨hfield, hfields⟩ := hp.blank (.inl hmode)
    refine ⟨st.nextLine .rowStart, ⟨rfl, h.field.trans hfield, h.fields.trans hfields, h.rows⟩, ?_⟩
    simp [h.mode, hmode, hcomment]
  | comment =>
    obtain ⟨hfield, hfields⟩ := hp.blank (.inr hmode)
    refine ⟨st.nextLine .rowStart, ⟨rfl, h.field.trans hfield, h.fields.trans hfields, h.rows⟩, ?_⟩
    simp [h.mode, hmode]
  | fieldStart =>
    refine ⟨_, (h.fromLine st.line).endRow, ?_⟩
    simp [h.mode, hmode, blankSize, hquote, hcomma, hcount]
  | plain =>
    refine ⟨_, h.endRow, ?_⟩
    simp [h.mode, hmode, hcomma, hcount]
  | quoteSeen =>
    refine ⟨_, h.endRow, ?_⟩
    simp [h.mode, hmode, hquote, hcomma, hcount]
  -- a line feed within quotes belongs to the field
  | quoted => exact absurd hmode hclosed

end Reader

/-! ## lines -/

/-- The place behind a line that is read from its start. A carriage return before its line feed does not count. -/
def lineEnd (d : Dialect) (line : Text) : Place := Place.run d 0 {} (Lines.dropReturn line)

/-- The rows of a line that is read alone, if it closes its quotes. -/
def lineRows (d : Dialect) (line : Text) : List (List Text) := (lineEnd d line).rows

/-- The line leaves a quote open. -/
def LeavesOpen (d : Dialect) (line : Text) : Prop := (lineEnd d line).mode = .quoted
deriving Decidable

theorem sound_lineEnd (d : Dialect) {line : Text} (hline : Text.lf ∉ line) : (lineEnd d line).Sound := by
  have hstart : ({} : Place).Sound := ⟨List.not_mem_nil, by simp, fun _ => ⟨rfl, rfl⟩⟩
  exact hstart.run fun hmem => hline ((Lines.dropReturn_sublist line).mem hmem)

theorem no_lf_lineRows (d : Dialect) {line : Text} (hline : Text.lf ∉ line) :
    ∀ row ∈ lineRows d line, ∀ field ∈ row, Text.lf ∉ field := by
  have hsound := sound_lineEnd d hline
  have hrow : ∀ field ∈ (lineEnd d line).fields.reverse ++ [(lineEnd d line).field.reverse], Text.lf ∉ field := by
    rw [List.forall_mem_append, List.forall_mem_singleton, List.mem_reverse]
    exact ⟨fun field hfield => hsound.fields field (List.mem_reverse.1 hfield), hsound.field⟩
  unfold lineRows Place.rows
  split
  · nofun
  · nofun
  · nofun
  · exact List.forall_mem_singleton.2 hrow
  · exact List.forall_mem_singleton.2 hrow
  · exact List.forall_mem_singleton.2 hrow

theorem not_leavesOpen_of_not_mem (d : Dialect) {line : Text} (hline : Text.quote ∉ line) : ¬ LeavesOpen d line := by
  have hstart : ({} : Place).Bare := ⟨nofun, nofun⟩
  exact (hstart.run fun hmem => hline ((Lines.dropReturn_sublist line).mem hmem)).1

theorem lineFeeds_line {line : Text} (hline : Text.lf ∉ line) (rest : Text) :
    lineFeeds (line ++ Text.lf :: rest) = Lines.dropReturn line ++ Text.lf :: lineFeeds rest := by
  unfold Lines.dropReturn
  split
  · next hlast =>
    obtain ⟨front, rfl⟩ := List.getLast?_eq_some_iff.1 hlast
    have hfront : Text.lf ∉ front := fun hmem => hline (List.mem_append_left _ hmem)
    have hcr : (Text.cr :: Text.lf :: rest).head? ≠ some Text.lf := by simp [Text.cr, Text.lf]
    have hpair : lineFeeds (Text.cr :: Text.lf :: rest) = Text.lf :: lineFeeds rest := by
      rw [lineFeeds, if_pos ⟨rfl, rfl⟩, lineFeeds_cons_of_ne (by decide)]
    rw [List.append_assoc, List.singleton_append, lineFeeds_append (.inl hcr), lineFeeds_of_not_mem hfront, hpair,
      List.dropLast_concat]
  · next hlast =>
    rw [lineFeeds_append (.inr hlast), lineFeeds_of_not_mem hline, lineFeeds_cons_of_ne (by decide)]

theorem lineFeeds_unlines {lines : List Text} (h : ∀ line ∈ lines, Text.lf ∉ line) :
    lineFeeds (Text.unlines lines) = Text.unlines (lines.map Lines.dropReturn) := by
  induction lines with
  | nil => rfl
  | cons line lines ih =>
    rw [List.forall_mem_cons] at h
    rw [List.map_cons, Lines.unlines_cons, Lines.unlines_cons, lineFeeds_line h.1, ih h.2]

theorem normalize_unlines {lines : List Text} (h : ∀ line ∈ lines, Text.lf ∉ line) :
    normalize (Text.unlines lines) = Text.unlines (lines.map Lines.dropReturn) := by
  have hlast : (Text.unlines lines).getLast? ≠ some Text.cr := by
    rcases List.eq_nil_or_concat lines with rfl | ⟨front, line, rfl⟩
    · nofun
    · rw [List.concat_eq_append, Text.unlines, List.flatMap_append, List.flatMap_singleton, ← List.append_assoc,
        List.getLast?_concat]
      decide
  rw [normalize_eq hlast, lineFeeds_unlines h]

section Lines

variable {d : Dialect} (hd : d.Tolerant)
include hd

/-- **Lines that close their quotes are read one by one.** -/
theorem readFrom_lines {lines : List Text} (hlf : ∀ line ∈ lines, Text.lf ∉ line)
    (hclosed : ∀ line ∈ lines, ¬ LeavesOpen d line) (rest : Text) :
    ∀ {st : State} {rows : List (List Text)}, st.Stands {} rows →
      ∃ st', st'.Stands {} ((lines.flatMap (lineRows d)).reverse ++ rows) ∧
        readFrom d 0 st (Text.unlines (lines.map Lines.dropReturn) ++ rest) = readFrom d 0 st' rest := by
  induction lines with
  | nil => exact fun {st} _ h => ⟨st, h, rfl⟩
  | cons line lines ih =>
    intro st rows h
    rw [List.forall_mem_cons] at hlf hclosed
    have hline : Text.lf ∉ Lines.dropReturn line := fun hmem => hlf.1 ((Lines.dropReturn_sublist line).mem hmem)
    obtain ⟨behind, hbehind, hrun⟩ :=
      readFrom_run hd hline (Text.unlines (lines.map Lines.dropReturn) ++ rest) (Nat.zero_le _) h
    obtain ⟨next, hnext, hend⟩ := readFrom_lf hd hbehind (sound_lineEnd d hlf.1) hclosed.1
      (Text.unlines (lines.map Lines.dropReturn) ++ rest)
    obtain ⟨st', hst', hread⟩ := ih hlf.2 hclosed.2 hnext
    refine ⟨st', ?_, ?_⟩
    · rwa [List.flatMap_cons, List.reverse_append, List.append_assoc, lineRows, Place.reverse_rows]
    · rw [List.map_cons, Lines.unlines_cons, List.append_assoc, List.cons_append, hrun, hend, hread]

/-- **The rows of lines that close their quotes** are those of the single lines. -/
theorem read_unlines {lines : List Text} (hlf : ∀ line ∈ lines, Text.lf ∉ line)
    (hclosed : ∀ line ∈ lines, ¬ LeavesOpen d line) :
    (read d (Text.unlines lines)).rows.map (·.map Field.text) = lines.flatMap (lineRows d) := by
  have hstart : ({} : State).Stands {} [] := ⟨rfl, rfl, rfl, rfl⟩
  obtain ⟨st', hat, hread⟩ := readFrom_lines hd hlf hclosed [] hstart
  rw [List.append_nil] at hread hat
  rw [read, normalize_unlines hlf, hread, readFrom.eq_def]
  simp [hat.mode, State.finish, hat.rows]

/-- **Behind a line that leaves a quote open**, all that is left of a file without quotes is one field. -/
theorem read_unlines_open {before behind : List Text} {line : Text}
    (hlf : ∀ other ∈ before ++ line :: behind, Text.lf ∉ other) (hclosed : ∀ other ∈ before, ¬ LeavesOpen d other)
    (hopen : LeavesOpen d line) (hquotes : ∀ other ∈ behind, Text.quote ∉ other) :
    (read d (Text.unlines (before ++ line :: behind))).rows.map (·.map Field.text) =
      before.flatMap (lineRows d) ++ [(lineEnd d line).fields.reverse ++
        [(lineEnd d line).field.reverse ++ Text.lf :: Text.unlines (behind.map Lines.dropReturn)]] := by
  have hlines := List.forall_mem_append.1 hlf
  have hline := (List.forall_mem_cons.1 hlines.2).1
  let left := Text.unlines (behind.map Lines.dropReturn)
  have hleft : Text.quote ∉ Text.lf :: left := by
    rw [List.mem_cons, not_or]
    refine ⟨by decide, Lines.not_mem_unlines (by decide) fun other hother => ?_⟩
    obtain ⟨other, hmem, rfl⟩ := List.mem_map.1 hother
    exact fun hquote => hquotes other hmem ((Lines.dropReturn_sublist other).mem hquote)
  have hcontent : normalize (Text.unlines (before ++ line :: behind)) =
      Text.unlines (before.map Lines.dropReturn) ++ (Lines.dropReturn line ++ Text.lf :: left) := by
    rw [normalize_unlines hlf, List.map_append, List.map_cons, Text.unlines, List.flatMap_append, ← Text.unlines,
      ← Text.unlines, Lines.unlines_cons]
  have hstart : ({} : State).Stands {} [] := ⟨rfl, rfl, rfl, rfl⟩
  obtain ⟨mid, hmid, hbefore⟩ := readFrom_lines hd hlines.1 hclosed (Lines.dropReturn line ++ Text.lf :: left) hstart
  obtain ⟨st', hst', hrun⟩ :=
    readFrom_run hd (fun hmem => hline ((Lines.dropReturn_sublist line).mem hmem)) left (Nat.zero_le _) hmid
  have hquoted : st'.At .quoted (lineEnd d line).field (lineEnd d line).fields (before.flatMap (lineRows d)).reverse :=
    ⟨hst'.mode.trans hopen, hst'.field, hst'.fields, by simpa using hst'.rows⟩
  rw [read, hcontent, hbefore, hrun, readFrom_quoted hd hleft hquoted, List.reverse_reverse]

end Lines

end CastAudit.Csv
