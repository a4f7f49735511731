import CastAudit.Proofs.Header.Classify
import CastAudit.Proofs.Scan.Positions
import Mathlib.Data.List.Forall2

/-!
# Line ends and byte-order marks

Tools write their logs with or without carriage returns before the line feeds, and with or without a byte-order mark in
front. A scan reads its lines through `Header.clean` alone, so that none of this matters.

* `ofLines_congr` — lines that are cleaned to the same texts have one scan;
* `raw_withReturns` — with a carriage return before every line feed the lines are the same but for a carriage return at
  the end;
* `ofContent_restyled` — the scan of a content is that of the content with carriage returns, a byte-order mark or both.
-/

namespace CastAudit

/-- A text with a carriage return before every line feed. -/
def Text.withReturns (s : Text) : Text := s.flatMap fun b => if b = Text.lf then [Text.cr, Text.lf] else [b]

/-- A content with a byte-order mark in front, with carriage returns before its line feeds, or both. -/
def Text.restyled (mark returns : Bool) (content : Text) : Text :=
  let marked := if mark then Header.byteOrderMark ++ content else content
  if returns then marked.withReturns else marked

namespace Scan

/-! ## cleaned lines -/

theorem step_congr (src : Source) (st : State) {a b : Text} (h : Header.clean a = Header.clean b) :
    step src st a = step src st b := by
  simp only [step, header, continuation, Header.classify_congr h, Header.extract_congr h, Header.location_congr h]

/-- **A scan reads cleaned lines.** -/
theorem ofLines_congr (src : Source) {lines lines' : List Text}
    (h : lines.map Header.clean = lines'.map Header.clean) : ofLines src lines = ofLines src lines' := by
  have hfold : ∀ st : State, lines.foldl (step src) st = lines'.foldl (step src) st := by
    induction lines generalizing lines' with
    | nil =>
      obtain rfl := List.map_eq_nil_iff.1 h.symm
      exact fun _ => rfl
    | cons line lines ih =>
      obtain ⟨line', rest, rfl, hline, hrest⟩ := List.map_eq_cons_iff.1 h.symm
      intro st
      rw [List.foldl_cons, List.foldl_cons, step_congr src st hline.symm, ih hrest.symm]
  rw [ofLines, ofLines, hfold]

theorem ofLines_dropReturn (src : Source) (lines : List Text) :
    ofLines src (lines.map Lines.dropReturn) = ofLines src lines := by
  refine ofLines_congr src ?_
  rw [List.map_map]
  exact List.map_congr_left fun line _ => Header.clean_dropReturn line

/-! ## lines of a restyled content -/

/-- The line as it is, or with a carriage return behind it. -/
def IsReturned (line line' : Text) : Prop := line' = line ∨ line' = line ++ [Text.cr]

/-- **Carriage returns before the line feeds stand at the ends of the lines.** -/
theorem raw_withReturns (content : Text) :
    List.Forall₂ IsReturned (Lines.raw content) (Lines.raw content.withReturns) := by
  induction content with
  | nil => exact .nil
  | cons b rest ih =>
    by_cases hb : b = Text.lf
    · have hcons : Text.withReturns (b :: rest) = [Text.cr] ++ Text.lf :: Text.withReturns rest := by
        simp [Text.withReturns, hb]
      rw [hcons, Lines.raw_append_lf (by decide), hb, Lines.raw_lf]
      exact .cons (.inr rfl) ih
    · have hcons : Text.withReturns (b :: rest) = b :: Text.withReturns rest := by
        simp [Text.withReturns, hb]
      rw [hcons, Lines.raw_cons hb, Lines.raw_cons hb]
      -- the byte goes to the front of the first line of the rest
      generalize Lines.raw rest = lines at ih
      generalize Lines.raw (Text.withReturns rest) = lines' at ih
      cases ih with
      | nil => exact .cons (.inl rfl) .nil
      | cons hfirst hothers => exact .cons (hfirst.imp (congrArg (b :: ·)) (congrArg (b :: ·))) hothers

theorem map_clean_withReturns (content : Text) :
    (Lines.raw content.withReturns).map Header.clean = (Lines.raw content).map Header.clean := by
  have hclean : List.Forall₂ (fun line line' => Header.clean line = Header.clean line')
      (Lines.raw content) (Lines.raw content.withReturns) := by
    refine (raw_withReturns content).imp fun line line' h => ?_
    rcases h with rfl | rfl
    · rfl
    · exact (Header.clean_append_cr line).symm
  rw [← List.forall₂_eq_eq_eq, List.forall₂_map_left_iff, List.forall₂_map_right_iff]
  exact hclean.flip.imp fun _ _ h => h.symm

theorem map_clean_mark {content : Text} (hne : content ≠ []) (hmark : ¬ Header.byteOrderMark <+: content) :
    (Lines.raw (Header.byteOrderMark ++ content)).map Header.clean = (Lines.raw content).map Header.clean := by
  have hfirst : ¬ Header.byteOrderMark <+: (Lines.raw content).headD [] := fun h =>
    hmark (h.trans (Lines.head_raw_isPrefix content))
  rw [Lines.raw_append (by decide) (by decide), List.map_cons, Header.clean_mark_append hfirst, ← List.map_cons,
    ← Lines.raw_eq_head_cons hne]

theorem map_clean_restyled (mark returns : Bool) {content : Text} (hne : content ≠ [])
    (hmark : ¬ Header.byteOrderMark <+: content) :
    (Lines.raw (content.restyled mark returns)).map Header.clean = (Lines.raw content).map Header.clean := by
  have hmarked : (Lines.raw (if mark then Header.byteOrderMark ++ content else content)).map Header.clean =
      (Lines.raw content).map Header.clean := by
    split
    · exact map_clean_mark hne hmark
    · rfl
  unfold Text.restyled
  simp only
  split
  · rw [map_clean_withReturns, hmarked]
  · exact hmarked

/-- **Line ends and byte-order marks do not matter.** With carriage returns before its line feeds, a byte-order mark in
front or both, a content has the same scan, as long as no line is too long either way. -/
theorem ofContent_restyled (src : Source) (content : Text) (mark returns : Bool) (hne : content ≠ [])
    (hmark : ¬ Header.byteOrderMark <+: content) (hfits : ∀ line ∈ Lines.raw content, line.length < Lines.wide)
    (hfits' : ∀ line ∈ Lines.raw (content.restyled mark returns), line.length < Lines.wide) :
    ofContent src (content.restyled mark returns) = ofContent src content := by
  rw [ofContent_of_fits src hfits, ofContent_of_fits src hfits', ofLines_dropReturn, ofLines_dropReturn,
    ofLines_congr src (map_clean_restyled mark returns hne hmark)]

/-- Carriage returns that were there before, a line of other bytes, and a header at the end without a line feed. -/
theorem ofContent_restyled_both :
    let src : Source := ⟨"demo-0.1.0", "demo-0.1.0/lint.log", [.cast]⟩
    let content : Text := Text.unlines ["warning: Here is cast(a>A>B=>mut>L)\r", "  --> src/a.rs:1:1\r\r", [0xff, Text.cr],
      "warning: Here is cast(broken)"] ++ "warning: Here is cast(b>C>D=>mut>L)\r"
    content ≠ [] ∧ ¬ Header.byteOrderMark <+: content ∧ (∀ line ∈ Lines.raw content, line.length < Lines.wide) ∧
      (∀ line ∈ Lines.raw (content.restyled true true), line.length < Lines.wide) ∧
      ofContent src (content.restyled true true) = ofContent src content ∧
      (ofContent src content).1 =
        { packageId := src.packageId
          logPath := src.logPath
          records := [⟨.cast, src.packageId, "a", "A", "B", "mut", "L", "src/a.rs:1:1", src.logPath, 1⟩]
          failures := [src.failure 4 "parse error: cast header: expected one \"=>\" separator, got 0"]
          lines := 5
          headers := 3 } := by
  intro src content
  have hne : content ≠ [] := by decide +kernel
  have hmark : ¬ Header.byteOrderMark <+: content := by decide +kernel
  have hfits : ∀ line ∈ Lines.raw content, line.length < Lines.wide := by decide +kernel
  have hfits' : ∀ line ∈ Lines.raw (content.restyled true true), line.length < Lines.wide := by decide +kernel
  exact ⟨hne, hmark, hfits, hfits', ofContent_restyled src content true true hne hmark hfits hfits', by decide +kernel⟩

end Scan

end CastAudit
