import CastAudit.Text.Basic
import Mathlib.Data.List.DropRight
import Mathlib.Data.List.Infix
import Mathlib.Tactic.Common

/-!
# Cutting and splitting texts

`cut?` and `splitOn` run with accumulators. Here they get the equations that later proofs use:

* `cut?_append_byte`, `cut?_append_pair` — a text is cut at the first occurrence of one byte, or of two
  different bytes in a row;
* `splitOn_eq` — the pieces of a text are the part before the first separator and the pieces of the rest;
* `splitOn_append_byte`, `splitOn_append_pair` and their counterparts for a text without the separator.

`dropEnd` is the library's `List.rdropWhile` (`dropEnd_eq`).
-/

namespace CastAudit.Text

/-! ## beginnings and ends -/

theorem startsWith_iff {s p : Text} : startsWith s p = true ↔ p <+: s := List.isPrefixOf_iff_prefix

theorem startsWith_append (p s : Text) : startsWith (p ++ s) p = true :=
  startsWith_iff.2 (List.prefix_append p s)

theorem startsWith_byte_of_ne {b c : UInt8} (h : c ≠ b) (s : Text) : startsWith (b :: s) [c] = false := by
  simp [startsWith, List.isPrefixOf, h]

theorem chopPrefix_append (p s : Text) : chopPrefix (p ++ s) p = s := by
  simp [chopPrefix, startsWith_append]

theorem chopPrefix_of_not {s p : Text} (h : startsWith s p = false) : chopPrefix s p = s := by
  simp [chopPrefix, h]

theorem chopSuffix_append (s p : Text) : chopSuffix (s ++ p) p = s := by
  have h : endsWith (s ++ p) p = true := by
    rw [endsWith, List.reverse_append]
    exact startsWith_append _ _
  simp [chopSuffix, h]

theorem dropEnd_eq (s : Text) (p : UInt8 → Bool) : dropEnd s p = s.rdropWhile p := rfl

theorem dropEnd_append_of_not {p : UInt8 → Bool} {b : UInt8} (hb : p b = false) (s t : Text) :
    dropEnd (s ++ b :: t) p = s ++ b :: dropEnd t p := by
  induction t using List.reverseRecOn with
  | nil =>
    simp only [dropEnd_eq, List.rdropWhile_nil]
    exact List.rdropWhile_concat_neg p s b (by simp [hb])
  | append_singleton t c ih =>
    have hcat : s ++ b :: (t ++ [c]) = (s ++ b :: t) ++ [c] := by simp
    rw [dropEnd_eq] at ih ⊢
    rw [hcat]
    by_cases hc : p c = true
    · rw [List.rdropWhile_concat_pos p _ c hc, ih, dropEnd_eq, dropEnd_eq, List.rdropWhile_concat_pos p t c hc]
    · rw [List.rdropWhile_concat_neg p _ c hc, dropEnd_eq, List.rdropWhile_concat_neg p t c hc, hcat]

theorem dropEnd_concat_of_not {p : UInt8 → Bool} {b : UInt8} (hb : p b = false) (s : Text) :
    dropEnd (s ++ [b]) p = s ++ [b] := dropEnd_append_of_not hb s []

/-! ## cutting -/

theorem cutFrom_eq (sep s : Text) : ∀ seen : Text,
    cutFrom sep seen s = (cut? s sep).map fun p => (seen.reverse ++ p.1, p.2) := by
  induction s with
  | nil => intro seen; by_cases h : sep.isEmpty = true <;> simp [cut?, cutFrom, h]
  | cons b s ih =>
    intro seen
    by_cases h : startsWith (b :: s) sep = true
    · simp [cut?, cutFrom, h]
    · rw [cut?, cutFrom, cutFrom, if_neg h, if_neg h, ih, ih [b], Option.map_map]
      congr 1
      funext p
      simp

theorem cut?_nil {sep : Text} (hsep : sep ≠ []) : cut? [] sep = none := by
  simp [cut?, cutFrom, hsep]

theorem cut?_cons (sep : Text) (b : UInt8) (s : Text) :
    cut? (b :: s) sep =
      if startsWith (b :: s) sep then some ([], (b :: s).drop sep.length)
      else (cut? s sep).map fun p => (b :: p.1, p.2) := by
  by_cases h : startsWith (b :: s) sep = true
  · simp [cut?, cutFrom, h]
  · rw [cut?, cutFrom, if_neg h, if_neg h, cutFrom_eq]
    rfl

theorem cut?_append_byte {c : UInt8} {s : Text} (h : c ∉ s) (t : Text) :
    cut? (s ++ c :: t) [c] = some (s, t) := by
  induction s with
  | nil => simp [cut?_cons, startsWith]
  | cons b s ih =>
    obtain ⟨hb, hs⟩ := not_or.1 (List.mem_cons.not.1 h)
    rw [List.cons_append, cut?_cons, startsWith_byte_of_ne hb, ih hs]
    rfl

theorem cut?_of_not_mem {c : UInt8} {s : Text} (h : c ∉ s) : cut? s [c] = none := by
  induction s with
  | nil => rfl
  | cons b s ih =>
    obtain ⟨hb, hs⟩ := not_or.1 (List.mem_cons.not.1 h)
    rw [cut?_cons, startsWith_byte_of_ne hb, ih hs]
    rfl

/-- A text without the separator `cd` does not start with it before a text that starts with `c`. -/
theorem startsWith_pair_append {b c d : UInt8} {s : Text} (hcd : c ≠ d) (h : ¬ [c, d] <:+: b :: s) (t : Text) :
    startsWith (b :: (s ++ c :: t)) [c, d] = false := by
  by_contra hstart
  rw [Bool.not_eq_false, startsWith_iff] at hstart
  cases s with
  | nil =>
    simp only [List.nil_append, List.cons_prefix_cons] at hstart
    exact hcd hstart.2.1.symm
  | cons e s =>
    simp only [List.cons_append, List.cons_prefix_cons] at hstart
    obtain ⟨rfl, rfl, -⟩ := hstart
    exact h ⟨[], s, rfl⟩

theorem cut?_append_pair {c d : UInt8} (hcd : c ≠ d) {s : Text} (h : ¬ [c, d] <:+: s) (t : Text) :
    cut? (s ++ c :: d :: t) [c, d] = some (s, t) := by
  induction s with
  | nil => simp [cut?_cons, startsWith]
  | cons b s ih =>
    have hs : ¬ [c, d] <:+: s := fun hs => h (hs.trans (List.suffix_cons b s).isInfix)
    rw [List.cons_append, cut?_cons, startsWith_pair_append hcd h, ih hs]
    rfl

theorem cut?_eq_none_of_not_within {sep : Text} (hsep : sep ≠ []) {s : Text} (h : ¬ sep <:+: s) :
    cut? s sep = none := by
  induction s with
  | nil => exact cut?_nil hsep
  | cons b s ih =>
    have hs : ¬ sep <:+: s := fun hs => h (hs.trans (List.suffix_cons b s).isInfix)
    have hstart : startsWith (b :: s) sep = false := by
      by_contra hp
      exact h (startsWith_iff.1 (by simpa using hp)).isInfix
    rw [cut?_cons, hstart, ih hs]
    rfl

theorem cut?_sublist {sep s : Text} : ∀ {a rest : Text}, cut? s sep = some (a, rest) → a.Sublist s ∧ rest.Sublist s := by
  induction s with
  | nil =>
    intro a rest h
    simp only [cut?, cutFrom] at h
    split at h
    · cases h
      exact ⟨.refl _, .refl _⟩
    · cases h
  | cons b s ih =>
    intro a rest h
    rw [cut?_cons] at h
    split at h
    · cases h
      exact ⟨List.nil_sublist _, List.drop_sublist ..⟩
    · obtain ⟨p, hp, heq⟩ := Option.map_eq_some_iff.1 h
      obtain ⟨rfl, rfl⟩ := Prod.mk.inj heq
      exact ⟨(ih hp).1.cons_cons b, (ih hp).2.cons b⟩

/-! ## splitting -/

theorem splitFrom_done (sep s : Text) : ∀ (skip : Nat) (piece : Text) (done : List Text),
    splitFrom sep skip piece done s = done.reverse ++ splitFrom sep skip piece [] s := by
  induction s with
  | nil => intro skip piece done; cases skip <;> simp [splitFrom]
  | cons b s ih =>
    intro skip piece done
    cases skip with
    | succ skip => rw [splitFrom, splitFrom, ih]
    | zero =>
      rw [splitFrom, splitFrom]
      split
      · rw [ih _ _ (piece.reverse :: done), ih _ _ [piece.reverse]]
        simp
      · exact ih _ _ _

theorem splitFrom_skip (sep s : Text) : ∀ (skip : Nat) (piece : Text) (done : List Text),
    splitFrom sep skip piece done s = splitFrom sep 0 piece done (s.drop skip) := by
  induction s with
  | nil => intro skip piece done; cases skip <;> simp [splitFrom]
  | cons b s ih =>
    intro skip piece done
    cases skip with
    | succ skip => rw [splitFrom, ih, List.drop_succ_cons]
    | zero => rfl

theorem splitFrom_eq {sep : Text} (hsep : sep ≠ []) (s : Text) : ∀ piece : Text,
    splitFrom sep 0 piece [] s =
      match cut? s sep with
      | none => [piece.reverse ++ s]
      | some (a, rest) => (piece.reverse ++ a) :: splitOn rest sep := by
  induction s with
  | nil => intro piece; simp [splitFrom, cut?_nil hsep]
  | cons b s ih =>
    intro piece
    rw [splitFrom, cut?_cons]
    by_cases h : startsWith (b :: s) sep = true
    · obtain ⟨c, sep', rfl⟩ := List.exists_cons_of_ne_nil hsep
      rw [if_pos h, if_pos h, splitFrom_done, splitFrom_skip]
      simp [splitOn]
    · rw [if_neg h, if_neg h, ih]
      cases cut? s sep <;> simp

/-- The pieces of a text are the part before the first separator and the pieces of the rest. -/
theorem splitOn_eq {sep : Text} (hsep : sep ≠ []) (s : Text) :
    splitOn s sep =
      match cut? s sep with
      | none => [s]
      | some (a, rest) => a :: splitOn rest sep := splitFrom_eq hsep s []

theorem sublist_of_mem_splitFrom {sep p : Text} (s : Text) : ∀ (skip : Nat) (piece : Text),
    p ∈ splitFrom sep skip piece [] s → p.Sublist (piece.reverse ++ s) := by
  induction s with
  | nil =>
    intro skip piece h
    cases skip <;> simp_all [splitFrom]
  | cons b s ih =>
    intro skip piece h
    cases skip with
    | succ skip => exact (ih skip piece h).trans ((List.sublist_cons_self b s).append_left _)
    | zero =>
      rw [splitFrom] at h
      split at h
      · rw [splitFrom_done] at h
        rcases List.mem_append.1 h with h | h
        · obtain rfl : p = piece.reverse := by simpa using h
          exact List.sublist_append_left ..
        · exact ((ih _ [] h).trans (List.sublist_cons_self b s)).trans (List.sublist_append_right ..)
      · simpa using ih 0 (b :: piece) h

theorem sublist_of_mem_splitOn {sep s p : Text} (h : p ∈ splitOn s sep) : p.Sublist s :=
  sublist_of_mem_splitFrom s 0 [] h

theorem splitOn_append_byte {c : UInt8} {s : Text} (h : c ∉ s) (t : Text) :
    splitOn (s ++ c :: t) [c] = s :: splitOn t [c] := by
  rw [splitOn_eq (by simp), cut?_append_byte h]

theorem splitOn_of_not_mem {c : UInt8} {s : Text} (h : c ∉ s) : splitOn s [c] = [s] := by
  rw [splitOn_eq (by simp), cut?_of_not_mem h]

theorem splitOn_append_pair {c d : UInt8} (hcd : c ≠ d) {s : Text} (h : ¬ [c, d] <:+: s) (t : Text) :
    splitOn (s ++ c :: d :: t) [c, d] = s :: splitOn t [c, d] := by
  rw [splitOn_eq (by simp), cut?_append_pair hcd h]

theorem splitOn_of_not_within {sep : Text} (hsep : sep ≠ []) {s : Text} (h : ¬ sep <:+: s) :
    splitOn s sep = [s] := by
  rw [splitOn_eq hsep, cut?_eq_none_of_not_within hsep h]

/-! ## two bytes in a row -/

/-- The bytes `cd` stand in a row around a `d` only if a `c` stands before it. -/
theorem pair_infix_append {c d : UInt8} (s t : Text) :
    [c, d] <:+: s ++ d :: t ↔ [c, d] <:+: s ∨ s.getLast? = some c ∨ [c, d] <:+: d :: t := by
  induction s with
  | nil => simp
  | cons b s ih =>
    have hcons : [c, d] <:+: b :: s ↔ [c, d] <+: b :: s ∨ [c, d] <:+: s := List.infix_cons_iff
    rw [List.cons_append, List.infix_cons_iff, ih, hcons]
    cases s with
    | nil => simp [List.cons_prefix_cons, @eq_comm _ b c]
    | cons e s => simp [List.cons_prefix_cons, or_assoc]

theorem pair_not_infix_of_not_mem {c d : UInt8} {s : Text} (h : d ∉ s) : ¬ [c, d] <:+: s :=
  fun hi => h (hi.subset (by simp))

end CastAudit.Text
