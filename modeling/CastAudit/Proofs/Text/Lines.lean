import CastAudit.Text.Lines
import Mathlib.Data.List.TakeWhile
import Mathlib.Tactic.Common

/-!
# The lines of a content

* `raw content` — the lines of a content as they stand: the bytes between line feeds, a trailing carriage
  return included; bytes after the last line feed are a line, an empty rest is none;
* `dropReturn line` — a line without one trailing carriage return;
* `read_eq` — reading with a limit gives the raw lines before the first that reaches the limit, each
  without its carriage return, and tells whether there is such a line;
* `raw_unlines` — lines that are written with their line feeds are the raw lines of the result, and
  `exists_append_of_raw` — the lines above another line are written so at the front of the content.
-/

namespace CastAudit.Lines

/-- The lines of a content as they stand. -/
def raw : Text → List Text
  | [] => []
  | b :: rest =>
    if b = Text.lf then [] :: raw rest
    else match raw rest with
      | [] => [[b]]
      | line :: lines => (b :: line) :: lines

/-- A line without one trailing carriage return. -/
def dropReturn (line : Text) : Text := if line.getLast? = some Text.cr then line.dropLast else line

/-- The line is shorter than the limit. -/
def fits (limit : Nat) (line : Text) : Bool := decide (line.length < limit)

theorem dropReturn_sublist (line : Text) : (dropReturn line).Sublist line := by
  unfold dropReturn
  split
  · exact List.dropLast_sublist line
  · exact .refl line

/-! ## raw lines -/

theorem raw_lf (rest : Text) : raw (Text.lf :: rest) = [] :: raw rest := by simp [raw]

/-- A byte other than a line feed goes to the front of the first line. -/
theorem raw_cons {b : UInt8} (hb : b ≠ Text.lf) (rest : Text) :
    raw (b :: rest) = (b :: (raw rest).headD []) :: (raw rest).tail := by
  rw [raw, if_neg hb]
  cases raw rest <;> rfl

theorem raw_append_lf {line : Text} (h : Text.lf ∉ line) (rest : Text) :
    raw (line ++ Text.lf :: rest) = line :: raw rest := by
  induction line with
  | nil => exact raw_lf rest
  | cons b line ih =>
    obtain ⟨hb, hl⟩ := not_or.1 (List.mem_cons.not.1 h)
    rw [List.cons_append, raw_cons (Ne.symm hb), ih hl]
    rfl

/-- The bytes before the first line feed start the first line, and it may go on. -/
theorem raw_append {line : Text} (h : Text.lf ∉ line) (hne : line ≠ []) (rest : Text) :
    raw (line ++ rest) = (line ++ (raw rest).headD []) :: (raw rest).tail := by
  induction line with
  | nil => exact absurd rfl hne
  | cons b line ih =>
    obtain ⟨hb, hl⟩ := not_or.1 (List.mem_cons.not.1 h)
    rw [List.cons_append, raw_cons (Ne.symm hb)]
    rcases List.eq_nil_or_concat line with rfl | ⟨_, _, hcat⟩
    · rfl
    · rw [ih hl (by rw [hcat]; simp)]
      rfl

theorem raw_eq_singleton {line : Text} (h : Text.lf ∉ line) (hne : line ≠ []) : raw line = [line] := by
  have := raw_append h hne []
  simpa [raw] using this

theorem unlines_cons (line : Text) (lines : List Text) :
    Text.unlines (line :: lines) = line ++ Text.lf :: Text.unlines lines := by
  simp [Text.unlines]

theorem not_mem_unlines {b : UInt8} (hb : b ≠ Text.lf) {lines : List Text} (h : ∀ line ∈ lines, b ∉ line) :
    b ∉ Text.unlines lines := by
  intro hmem
  obtain ⟨line, hline, hmem⟩ := List.mem_flatMap.1 hmem
  rcases List.mem_append.1 hmem with hmem | hmem
  · exact h line hline hmem
  · exact hb (List.mem_singleton.1 hmem)

theorem raw_unlines_append {lines : List Text} (h : ∀ line ∈ lines, Text.lf ∉ line) (rest : Text) :
    raw (Text.unlines lines ++ rest) = lines ++ raw rest := by
  induction lines with
  | nil => rfl
  | cons line lines ih =>
    rw [unlines_cons, List.append_assoc, List.cons_append, raw_append_lf (h line (List.mem_cons_self ..)),
      ih fun l hl => h l (List.mem_cons_of_mem _ hl), List.cons_append]

theorem raw_unlines {lines : List Text} (h : ∀ line ∈ lines, Text.lf ∉ line) :
    raw (Text.unlines lines) = lines := by
  simpa [raw] using raw_unlines_append h []

theorem no_lf_of_mem_raw {content : Text} : ∀ {line : Text}, line ∈ raw content → Text.lf ∉ line := by
  induction content with
  | nil =>
    intro line hline
    cases hline
  | cons b rest ih =>
    intro line hline
    by_cases hb : b = Text.lf
    · rw [hb, raw_lf, List.mem_cons] at hline
      rcases hline with rfl | hline
      · simp
      · exact ih hline
    · rw [raw_cons hb, List.mem_cons] at hline
      rcases hline with rfl | hline
      · cases hraw : raw rest with
        | nil => simpa using Ne.symm hb
        | cons first lines =>
          have := ih (hraw ▸ List.mem_cons_self ..)
          simpa [Ne.symm hb] using this
      · exact ih (List.mem_of_mem_tail hline)

theorem head_raw_isPrefix (content : Text) : (raw content).headD [] <+: content := by
  induction content with
  | nil => exact List.prefix_rfl
  | cons b rest ih =>
    by_cases hb : b = Text.lf
    · rw [hb, raw_lf]
      exact List.nil_prefix
    · rw [raw_cons hb]
      exact (List.prefix_cons_inj b).2 ih

theorem raw_eq_head_cons {content : Text} (h : content ≠ []) :
    raw content = (raw content).headD [] :: (raw content).tail := by
  obtain ⟨b, rest, rfl⟩ := List.exists_cons_of_ne_nil h
  by_cases hb : b = Text.lf
  · rw [hb, raw_lf]
    rfl
  · rw [raw_cons hb]
    rfl

/-- A line with others below it ends in a line feed. -/
theorem eq_append_of_raw {content : Text} : ∀ {line : Text} {lines : List Text}, raw content = line :: lines →
    lines ≠ [] → ∃ rest, content = line ++ Text.lf :: rest ∧ raw rest = lines := by
  induction content with
  | nil =>
    intro line lines h
    cases h
  | cons b rest ih =>
    intro line lines h hne
    by_cases hb : b = Text.lf
    · rw [hb, raw_lf] at h
      cases h
      exact ⟨rest, by rw [hb]; rfl, rfl⟩
    · rw [raw_cons hb] at h
      obtain ⟨rfl, rfl⟩ := List.cons.inj h
      obtain ⟨first, lines, hraw⟩ : ∃ first lines, raw rest = first :: lines :=
        List.exists_cons_of_ne_nil fun hnil => hne (by rw [hnil]; rfl)
      rw [hraw] at hne ⊢
      obtain ⟨rest', rfl, hrest'⟩ := ih hraw hne
      exact ⟨rest', rfl, hrest'⟩

/-- The lines above another line are the beginning of the content, each with its line feed. -/
theorem exists_append_of_raw {before lines : List Text} (hne : lines ≠ []) : ∀ {content : Text},
    raw content = before ++ lines → ∃ rest, content = Text.unlines before ++ rest ∧ raw rest = lines := by
  induction before with
  | nil => exact fun {content} h => ⟨content, rfl, h⟩
  | cons line before ih =>
    intro content h
    obtain ⟨rest, rfl, hrest⟩ := eq_append_of_raw h (by simp [hne])
    obtain ⟨rest', rfl, hlines⟩ := ih hrest
    exact ⟨rest', by simp [Text.unlines], hlines⟩

/-- Lines are those above one of them, that one and those below it. -/
theorem take_append_cons_drop {lines : List Text} {i : Nat} {line : Text} (h : lines[i]? = some line) :
    lines.take i ++ line :: lines.drop (i + 1) = lines := by
  obtain ⟨hlt, rfl⟩ := List.getElem?_eq_some_iff.1 h
  rw [← List.drop_eq_getElem_cons hlt, List.take_append_drop]

theorem length_raw_le (content : Text) : (raw content).length ≤ content.length := by
  induction content with
  | nil => rfl
  | cons b rest ih =>
    by_cases hb : b = Text.lf
    · simpa [hb, raw_lf] using ih
    · rw [raw_cons hb]
      simp only [List.length_cons, List.length_tail]
      omega

/-! ## reading -/

theorem finish_reverse (line : Text) : finish line.reverse = dropReturn line := by
  rcases List.eq_nil_or_concat line with rfl | ⟨front, b, rfl⟩
  · rfl
  · simp only [List.concat_eq_append, List.reverse_append, List.reverse_cons, List.reverse_nil,
      List.nil_append, List.singleton_append, finish, dropReturn, List.getLast?_append,
      List.getLast?_singleton, Option.some_or, Option.some.injEq, List.dropLast_concat, List.reverse_reverse]

/-- The loop has read the lines `done`, and `seen` holds the start of the next one. -/
theorem readFrom_eq {limit : Nat} (content : Text) : ∀ (done : List Text) (seen : Text),
    Text.lf ∉ seen → seen.length < limit →
    readFrom limit done seen.length seen content =
      ⟨done.reverse ++ ((raw (seen.reverse ++ content)).takeWhile (fits limit)).map dropReturn,
        !(raw (seen.reverse ++ content)).all (fits limit)⟩ := by
  induction content with
  | nil =>
    intro done seen hlf hlen
    rw [List.append_nil, readFrom]
    rcases seen with _ | ⟨b, seen⟩
    · simp [raw]
    · have hraw : raw (b :: seen).reverse = [(b :: seen).reverse] :=
        raw_eq_singleton (by rwa [List.mem_reverse]) (by simp)
      have hfit : fits limit (b :: seen).reverse = true := by simpa [fits] using hlen
      have hfin : finish (b :: seen) = dropReturn (b :: seen).reverse := by
        rw [← finish_reverse, List.reverse_reverse]
      rw [hraw, List.takeWhile_cons_of_pos hfit, hfin]
      simp [fits] at hfit ⊢
      exact hfit
  | cons b rest ih =>
    intro done seen hlf hlen
    rw [readFrom]
    by_cases hb : b = Text.lf
    · -- the line under way ends here
      subst hb
      have hfit : fits limit seen.reverse = true := by simpa [fits] using hlen
      have hfin : finish seen = dropReturn seen.reverse := by rw [← finish_reverse, List.reverse_reverse]
      rw [if_pos rfl, raw_append_lf (by rwa [List.mem_reverse]), List.takeWhile_cons_of_pos hfit]
      have := ih (finish seen :: done) [] (by simp) (by simp; omega)
      simp only [List.length_nil, List.reverse_nil, List.nil_append] at this
      rw [this, hfin]
      simp [hfit]
    · rw [if_neg hb]
      have hcons : seen.reverse ++ b :: rest = (b :: seen).reverse ++ rest := by simp
      have hlf' : Text.lf ∉ b :: seen := by simp [hlf, Ne.symm hb]
      by_cases hsize : seen.length + 1 < limit
      · rw [if_pos hsize, hcons]
        exact ih done (b :: seen) hlf' hsize
      · -- the line under way reaches the limit
        rw [if_neg hsize, hcons, raw_append (by rwa [List.mem_reverse]) (by simp)]
        have hlong : fits limit ((b :: seen).reverse ++ (raw rest).headD []) = false := by
          simp only [fits, List.length_append, List.length_reverse, List.length_cons, decide_eq_false_iff_not]
          omega
        rw [List.takeWhile_cons_of_neg (by rw [hlong]; decide), List.all_cons, hlong, List.map_nil,
          List.append_nil, Bool.false_and, Bool.not_false]

/-- **Reading with a limit.** The lines before the first that reaches the limit are read, each without
one trailing carriage return. -/
theorem read_eq {limit : Nat} (hlimit : 0 < limit) (content : Text) :
    read limit content =
      ⟨((raw content).takeWhile (fits limit)).map dropReturn, !(raw content).all (fits limit)⟩ := by
  have := readFrom_eq content [] [] (by simp) (by simpa using hlimit)
  simpa [read] using this

/-- A content without over-long lines is read to its end. -/
theorem read_of_fits {limit : Nat} (hlimit : 0 < limit) {content : Text}
    (h : ∀ line ∈ raw content, line.length < limit) :
    read limit content = ⟨(raw content).map dropReturn, false⟩ := by
  have hall : ∀ line ∈ raw content, fits limit line = true := fun line hl => by
    simpa [fits] using h line hl
  rw [read_eq hlimit, List.takeWhile_eq_self_iff.2 hall, List.all_eq_true.2 hall]
  rfl

end CastAudit.Lines
