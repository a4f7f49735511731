import CastAudit.Proofs.Text.Validity

/-!
# Ends of a text

* `chopSuffix_of_not` — a suffix that is not there is not chopped;
* `FrontBare s`, `BackBare s` — the text does not start, or does not end, with white space; `trim_eq_iff_bare` — it is
  its own trimming if it does neither;
* `frontBare_append`, `backBare_append` — in a text that may be cut, the parts at its ends decide;
* `trim_around` — blank texts in front of a text and behind it are trimmed away;
* `trim_append_visible` — before a visible byte, trimming a text is up to its front.
-/

namespace CastAudit.Text

/-! ## suffixes -/

theorem endsWith_iff {s p : Text} : endsWith s p = true ↔ p <:+ s := by
  rw [endsWith, startsWith_iff, List.reverse_prefix]

theorem chopSuffix_of_not {s p : Text} (h : ¬ p <:+ s) : chopSuffix s p = s := by
  rw [chopSuffix, if_neg fun hend => h (endsWith_iff.1 hend)]

/-! ## bare ends -/

/-- The text does not start with white space. -/
def FrontBare (s : Text) : Prop := ∀ p ∈ (pieces s).head?, p.isBlank = false
deriving Decidable

/-- The text does not end in white space. -/
def BackBare (s : Text) : Prop := ∀ p ∈ (pieces s).getLast?, p.isBlank = false
deriving Decidable

theorem trim_eq_iff_bare {s : Text} : trim s = s ↔ FrontBare s ∧ BackBare s := bare_iff.symm

theorem pieces_ne_nil {s : Text} (h : s ≠ []) : pieces s ≠ [] := by
  intro hnil
  rw [← ofPieces_pieces s, hnil] at h
  exact h rfl

section Cut

variable {s t : Text} (ht : StartsFresh t)
include ht

theorem frontBare_append (hs : s ≠ []) : FrontBare (s ++ t) ↔ FrontBare s := by
  rw [FrontBare, pieces_append s ht, List.head?_append_of_ne_nil _ (pieces_ne_nil hs), FrontBare]

theorem backBare_append (hne : t ≠ []) : BackBare (s ++ t) ↔ BackBare t := by
  rw [BackBare, pieces_append s ht, List.getLast?_append_of_ne_nil _ (pieces_ne_nil hne), BackBare]

end Cut

theorem backBare_cons {b : UInt8} (hb : b < 0x80) {t : Text} (hne : t ≠ []) : BackBare (b :: t) ↔ BackBare t := by
  obtain ⟨p, ps, hps⟩ := List.exists_cons_of_ne_nil (pieces_ne_nil hne)
  rw [BackBare, pieces_ascii hb, hps, List.getLast?_cons_cons, BackBare, hps]

theorem backBare_concat {b : UInt8} (hlow : 0x20 < b) (hhigh : b < 0x80) (s : Text) : BackBare (s ++ [b]) := by
  rw [backBare_append (startsFresh_ascii hhigh []) (by simp), BackBare, pieces_ascii hhigh]
  rintro p ⟨⟩
  exact isBlank_visible hlow hhigh

/-- **Before a visible byte, trimming a text is up to its front.** -/
theorem trim_append_visible {b : UInt8} (hlow : 0x20 < b) (hhigh : b < 0x80) (s : Text) {t : Text}
    (ht : BackBare (b :: t)) : trim (s ++ b :: t) = trimLeft s ++ b :: t := by
  have hpieces : pieces (s ++ b :: t) = pieces s ++ pieces (b :: t) := pieces_append s (startsFresh_ascii hhigh t)
  have hne : pieces (b :: t) ≠ [] := pieces_ne_nil (by simp)
  have hfront : (pieces (b :: t)).dropWhile Piece.isBlank = pieces (b :: t) := by
    rw [pieces_ascii hhigh, List.dropWhile_cons_of_neg (by simp [isBlank_visible hlow hhigh])]
  have hback : (pieces (b :: t)).getLast hne ∈ (pieces (b :: t)).getLast? := List.getLast?_eq_some_getLast hne
  have hdrop : (pieces s ++ pieces (b :: t)).dropWhile Piece.isBlank =
      (pieces s).dropWhile Piece.isBlank ++ pieces (b :: t) := by
    rw [List.dropWhile_append]
    split
    · next hnone => rw [hfront, List.isEmpty_iff.1 hnone, List.nil_append]
    · rfl
  have hkeep : ((pieces s).dropWhile Piece.isBlank ++ pieces (b :: t)).rdropWhile Piece.isBlank =
      (pieces s).dropWhile Piece.isBlank ++ pieces (b :: t) := by
    rw [List.rdropWhile_eq_self_iff]
    intro hwhole
    rw [List.getLast_append_of_ne_nil hwhole hne, ht _ hback]
    nofun
  have happend : ofPieces ((pieces s).dropWhile Piece.isBlank ++ pieces (b :: t)) =
      trimLeft s ++ ofPieces (pieces (b :: t)) := List.flatMap_append ..
  rw [trim_eq, hpieces, hdrop, hkeep, happend, ofPieces_pieces]

/-! ## blank texts -/

theorem isAllBlank_iff {s : Text} : isAllBlank s = true ↔ ∀ p ∈ pieces s, p.isBlank = true := List.all_eq_true

/-- White space is well-formed. -/
theorem not_isStray_of_isBlank {p : Piece} (h : p.isBlank = true) : p.isStray = false := by
  cases p with
  | scalar => rfl
  | stray => cases h

/-- A blank text starts with a whole character. -/
theorem startsFresh_of_isAllBlank {s : Text} (h : isAllBlank s = true) : StartsFresh s := by
  rw [isAllBlank_iff] at h
  cases hps : pieces s with
  | nil =>
    rw [← ofPieces_pieces s, hps]
    rintro b ⟨⟩
  | cons p ps =>
    have hstray := not_isStray_of_isBlank (h p (hps ▸ List.mem_cons_self ..))
    have hwhole : p :: ps <:+ pieces s := hps ▸ List.suffix_refl (p :: ps)
    have hfresh := startsFresh_ofPieces hwhole hstray
    rwa [← hps, ofPieces_pieces] at hfresh

/-- A blank text does not run over into what follows. -/
theorem pieces_blank_append {s : Text} (h : isAllBlank s = true) (t : Text) :
    pieces (s ++ t) = pieces s ++ pieces t := by
  rw [isAllBlank_iff] at h
  have hall : ∀ ps : List Piece, (∀ p ∈ ps, p ∈ pieces s) → pieces (ofPieces ps ++ t) = ps ++ pieces t := by
    intro ps hps
    induction ps with
    | nil => rfl
    | cons p ps ih =>
      rw [List.forall_mem_cons] at hps
      cases p with
      | stray b => cases h _ hps.1
      | scalar code bytes =>
        have hcons : ofPieces (.scalar code bytes :: ps) ++ t = bytes ++ (ofPieces ps ++ t) := by
          simp [ofPieces, Piece.bytes]
        rw [hcons, pieces_scalar_append (isScalar_of_mem_pieces hps.1), ih hps.2]
        rfl
  have hself := hall (pieces s) fun _ hp => hp
  rwa [ofPieces_pieces] at hself

/-- **White space around a text is trimmed away.** -/
theorem trim_around {front back : Text} (hfront : isAllBlank front = true) (hback : isAllBlank back = true) (s : Text) :
    trim (front ++ s ++ back) = trim s := by
  have hpieces : pieces (front ++ s ++ back) = pieces front ++ (pieces s ++ pieces back) := by
    rw [List.append_assoc, pieces_blank_append hfront, pieces_append s (startsFresh_of_isAllBlank hback)]
  rw [isAllBlank_iff] at hfront hback
  rw [trim_eq, trim_eq, hpieces, List.dropWhile_append_of_pos hfront, List.dropWhile_append]
  split
  · next hnone =>
    -- a blank text: nothing is left of what stands behind it either
    rw [List.isEmpty_iff.1 hnone, List.dropWhile_eq_nil_iff.2 hback]
  · rw [List.rdropWhile, List.reverse_append,
      List.dropWhile_append_of_pos fun p hp => hback p (List.mem_reverse.1 hp), List.rdropWhile]

end CastAudit.Text
