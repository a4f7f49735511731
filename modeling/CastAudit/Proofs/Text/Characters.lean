import CastAudit.Text.Blank
import CastAudit.Proofs.Text.Split
import Mathlib.Data.List.Flatten
import Mathlib.Data.List.TakeWhile

/-!
# Characters of a text

What `pieces` does at the front of a text, and what follows for the functions built on it.

* `pieces_cons` — the pieces of a text are its leading piece and the pieces of what follows;
  no byte is lost (`ofPieces_pieces`);
* `pieces_append` — a text may be cut before any byte that continues no character; in particular
  before every ASCII byte;
* `trim_eq_self_iff` — a trimmed text neither starts nor ends with white space, and `trim_trim`;
* `repair_of_valid` — a valid text needs no repair.
-/

namespace CastAudit.Text

/-! ## the leading piece -/

/-- The piece at the front of the text with first byte `a` and rest `r`. -/
def leading (a : UInt8) (r : Text) : Piece :=
  if a < 0x80 then .scalar a.toNat [a]
  else match r with
    | [] => .stray a
    | b :: r₁ =>
      if isPair a b then .scalar (pairCode a b) [a, b]
      else match r₁ with
        | [] => .stray a
        | c :: r₂ =>
          if isTriple a b c then .scalar (tripleCode a b c) [a, b, c]
          else match r₂ with
            | [] => .stray a
            | d :: _ => if isQuad a b c d then .scalar (quadCode a b c d) [a, b, c, d] else .stray a

/-- One turn of the loop takes the leading piece off. -/
theorem piecesFrom_cons (found : List Piece) (a : UInt8) (r : Text) :
    piecesFrom found (a :: r) =
      piecesFrom (leading a r :: found) ((a :: r).drop (leading a r).bytes.length) := by
  conv_lhs => rw [piecesFrom.eq_def]
  by_cases ha : a < 0x80
  · simp [leading, ha, Piece.bytes]
  rcases r with _ | ⟨b, r⟩
  · simp [leading, ha, Piece.bytes]
  by_cases hb : isPair a b = true
  · simp [leading, ha, hb, Piece.bytes]
  rcases r with _ | ⟨c, r⟩
  · simp [leading, ha, hb, Piece.bytes]
  by_cases hc : isTriple a b c = true
  · simp [leading, ha, hb, hc, Piece.bytes]
  rcases r with _ | ⟨d, r⟩
  · simp [leading, ha, hb, hc, Piece.bytes]
  by_cases hd : isQuad a b c d = true
  · simp [leading, ha, hb, hc, hd, Piece.bytes]
  · simp [leading, ha, hb, hc, hd, Piece.bytes]

theorem leading_bytes_isPrefix (a : UInt8) (r : Text) : (leading a r).bytes <+: a :: r := by
  unfold leading
  repeat' split
  all_goals simp [Piece.bytes]

theorem length_bytes_leading_pos (a : UInt8) (r : Text) : 0 < (leading a r).bytes.length := by
  unfold leading
  repeat' split
  all_goals simp [Piece.bytes]

theorem leading_ascii {a : UInt8} (ha : a < 0x80) (r : Text) : leading a r = .scalar a.toNat [a] := by
  simp [leading, ha]

/-- The byte at the front of a text, if there is one, continues no character. -/
def StartsFresh (t : Text) : Prop := ∀ b ∈ t.head?, isTail b = false

theorem startsFresh_ascii {b : UInt8} (hb : b < 0x80) (t : Text) : StartsFresh (b :: t) := by
  rintro c ⟨⟩
  have h : ¬ (0x80 : UInt8) ≤ b := by simpa using hb
  simp [isTail, h]

/-- No character runs over into a text that starts afresh. -/
theorem leading_append (a : UInt8) (r : Text) {t : Text} (ht : StartsFresh t) :
    leading a (r ++ t) = leading a r := by
  by_cases ha : a < 0x80
  · simp [leading, ha]
  have htail : ∀ b t', t = b :: t' → isTail b = false := fun b t' h => ht b (by simp [h])
  rcases r with _ | ⟨b, _ | ⟨c, _ | ⟨d, r⟩⟩⟩
  · rcases t with _ | ⟨b, _ | ⟨c, _ | ⟨d, t⟩⟩⟩
    all_goals simp [leading, ha, isPair, isTriple, isQuad]
    all_goals simp [htail b _ rfl]
  · rcases t with _ | ⟨c, _ | ⟨d, t⟩⟩
    all_goals simp [leading, ha, isTriple, isQuad]
    all_goals simp [htail c _ rfl]
  · rcases t with _ | ⟨d, t⟩
    all_goals simp [leading, ha, isQuad]
    all_goals simp [htail d _ rfl]
  · simp [leading]

/-! ## pieces -/

/-- Induction along the pieces of a text. -/
theorem pieces_induction {motive : Text → Prop} (nil : motive [])
    (cons : ∀ a r, motive ((a :: r).drop (leading a r).bytes.length) → motive (a :: r)) (s : Text) :
    motive s := by
  -- every piece takes at least one byte
  induction hn : s.length using Nat.strongRecOn generalizing s with
  | _ n ih =>
    cases s with
    | nil => exact nil
    | cons a r =>
      have := length_bytes_leading_pos a r
      refine cons a r (ih _ ?_ _ rfl)
      simp only [List.length_drop, List.length_cons] at hn ⊢
      omega

theorem piecesFrom_found (s : Text) : ∀ found : List Piece,
    piecesFrom found s = found.reverse ++ pieces s := by
  induction s using pieces_induction with
  | nil => simp [pieces, piecesFrom]
  | cons a r ih =>
    intro found
    rw [pieces, piecesFrom_cons, piecesFrom_cons [], ih, ih [leading a r]]
    simp

@[simp] theorem pieces_nil : pieces [] = [] := rfl

theorem pieces_cons (a : UInt8) (r : Text) :
    pieces (a :: r) = leading a r :: pieces ((a :: r).drop (leading a r).bytes.length) := by
  rw [pieces, piecesFrom_cons, piecesFrom_found]
  rfl

theorem pieces_ascii {a : UInt8} (ha : a < 0x80) (r : Text) :
    pieces (a :: r) = .scalar a.toNat [a] :: pieces r := by
  simp [pieces_cons, leading_ascii ha, Piece.bytes]

theorem ofPieces_pieces (s : Text) : ofPieces (pieces s) = s := by
  induction s using pieces_induction with
  | nil => rfl
  | cons a r ih =>
    rw [pieces_cons, ofPieces, List.flatMap_cons]
    rw [ofPieces] at ih
    rw [ih]
    exact List.prefix_iff_eq_append.1 (leading_bytes_isPrefix a r)

/-- **A text may be cut before a byte that continues no character.** -/
theorem pieces_append (s : Text) {t : Text} (ht : StartsFresh t) : pieces (s ++ t) = pieces s ++ pieces t := by
  induction s using pieces_induction with
  | nil => rfl
  | cons a r ih =>
    have hle : (leading a r).bytes.length ≤ (a :: r).length := (leading_bytes_isPrefix a r).length_le
    have hlead := leading_append a r ht
    rw [List.cons_append, pieces_cons, pieces_cons a r, hlead, ← List.cons_append,
      List.drop_append_of_le_length hle, ih]
    rfl

theorem bytes_ne_nil_of_mem_pieces {s : Text} {p : Piece} (h : p ∈ pieces s) : p.bytes ≠ [] := by
  induction s using pieces_induction with
  | nil => simp at h
  | cons a r ih =>
    rw [pieces_cons, List.mem_cons] at h
    rcases h with rfl | h
    · exact List.length_pos_iff.1 (length_bytes_leading_pos a r)
    · exact ih h

/-! ## trimming -/

/-- A part of a list of pieces with the same bytes is the whole list. -/
theorem eq_of_sublist_of_ofPieces {part whole : List Piece} (hsub : part.Sublist whole)
    (hne : ∀ p ∈ whole, p.bytes ≠ []) (h : ofPieces part = ofPieces whole) : part = whole := by
  have hlen : (ofPieces part).length = (ofPieces whole).length := by rw [h]
  clear h
  induction hsub with
  | slnil => rfl
  | cons p hsub ih =>
    have hle : (ofPieces _).length ≤ (ofPieces _).length := (hsub.flatMap Piece.bytes).length_le
    have hp := List.length_pos_iff.2 (hne p (List.mem_cons_self ..))
    simp only [ofPieces, List.flatMap_cons, List.length_append] at hlen hle
    omega
  | cons_cons p hsub ih =>
    rw [ih (fun q hq => hne q (List.mem_cons_of_mem _ hq))]
    simpa [ofPieces, List.flatMap_cons] using hlen

theorem trim_eq (s : Text) :
    trim s = ofPieces (((pieces s).dropWhile Piece.isBlank).rdropWhile Piece.isBlank) := rfl

/-- A trimmed text has no white space at either end. -/
theorem trim_eq_self_iff {s : Text} :
    trim s = s ↔
      (pieces s).dropWhile Piece.isBlank = pieces s ∧ (pieces s).rdropWhile Piece.isBlank = pieces s := by
  constructor
  · intro h
    have hfront : ((pieces s).dropWhile Piece.isBlank).Sublist (pieces s) := (List.dropWhile_suffix _).sublist
    have hback := (List.rdropWhile_prefix Piece.isBlank ((pieces s).dropWhile Piece.isBlank)).sublist
    have hall : ((pieces s).dropWhile Piece.isBlank).rdropWhile Piece.isBlank = pieces s := by
      refine eq_of_sublist_of_ofPieces (hback.trans hfront) (fun p hp => bytes_ne_nil_of_mem_pieces hp) ?_
      rw [ofPieces_pieces, ← trim_eq, h]
    have hdrop : (pieces s).dropWhile Piece.isBlank = pieces s := by
      refine hfront.eq_of_length_le ?_
      conv_lhs => rw [← hall]
      exact hback.length_le
    exact ⟨hdrop, by rwa [hdrop] at hall⟩
  · rintro ⟨hdrop, hrdrop⟩
    rw [trim_eq, hdrop, hrdrop, ofPieces_pieces]

theorem isBlank_visible {b : UInt8} (hlow : 0x20 < b) (hhigh : b < 0x80) :
    Piece.isBlank (.scalar b.toNat [b]) = false := by
  have hlow' : 0x20 < b.toNat := UInt8.lt_iff_toNat_lt.1 hlow
  have hhigh' : b.toNat < 0x80 := UInt8.lt_iff_toNat_lt.1 hhigh
  simp only [Piece.isBlank, isBlankCode, Bool.or_eq_false_iff, Bool.and_eq_false_iff, decide_eq_false_iff_not]
  omega

theorem trim_of_visible {s : Text} (h : ∀ b ∈ s, 0x20 < b ∧ b < 0x80) : trim s = s := by
  have hblank : ∀ p ∈ pieces s, p.isBlank = false := by
    induction s with
    | nil => simp
    | cons b s ih =>
      rw [List.forall_mem_cons] at h
      obtain ⟨⟨hlow, hhigh⟩, hs⟩ := h
      rw [pieces_ascii hhigh, List.forall_mem_cons]
      exact ⟨isBlank_visible hlow hhigh, ih hs⟩
  rw [trim_eq_self_iff, List.dropWhile_eq_self_iff, List.rdropWhile_eq_self_iff]
  refine ⟨fun hlength => ?_, fun hne => ?_⟩
  · simp [hblank _ (List.getElem_mem _)]
  · simp [hblank _ (List.getLast_mem hne)]

/-- What follows a character of a text has the pieces that it has within the text. -/
theorem pieces_ofPieces_suffix {s : Text} {ps : List Piece} (h : ps <:+ pieces s) : pieces (ofPieces ps) = ps := by
  induction s using pieces_induction with
  | nil =>
    rw [pieces_nil, List.suffix_nil] at h
    rw [h]
    rfl
  | cons a r ih =>
    rw [pieces_cons, List.suffix_cons_iff] at h
    rcases h with rfl | h
    · rw [← pieces_cons, ofPieces_pieces]
    · exact ih h

/-- A byte that continues a character starts none. -/
theorem leading_of_isTail {a : UInt8} (ha : isTail a = true) (r : Text) : leading a r = .stray a := by
  simp only [isTail, Bool.and_eq_true, decide_eq_true_eq] at ha
  have habove {lead : UInt8} (h : (0xbf : UInt8) < lead) : ¬ lead ≤ a := fun hle =>
    absurd (UInt8.lt_of_lt_of_le h (UInt8.le_trans hle ha.2)) (UInt8.lt_irrefl _)
  have hlow : ¬ a < 0x80 := by simpa using ha.1
  have hpair (b : UInt8) : isPair a b = false := by simp [isPair, habove (show 0xbf < 0xc2 by decide)]
  have htriple (b c : UInt8) : isTriple a b c = false := by simp [isTriple, habove (show 0xbf < 0xe0 by decide)]
  have hquad (b c d : UInt8) : isQuad a b c d = false := by simp [isQuad, habove (show 0xbf < 0xf0 by decide)]
  rcases r with _ | ⟨b, _ | ⟨c, _ | ⟨d, r⟩⟩⟩ <;> simp [leading, hlow, hpair, htriple, hquad]

/-- A text starts afresh where a well-formed character starts. -/
theorem startsFresh_ofPieces {s : Text} {p : Piece} {ps : List Piece} (h : p :: ps <:+ pieces s)
    (hp : p.isStray = false) : StartsFresh (ofPieces (p :: ps)) := by
  have hpieces := pieces_ofPieces_suffix h
  cases hbytes : ofPieces (p :: ps) with
  | nil =>
    rw [hbytes] at hpieces
    cases hpieces
  | cons a r =>
    rw [hbytes, pieces_cons] at hpieces
    rintro b ⟨⟩
    by_contra htail
    rw [leading_of_isTail (by simpa using htail)] at hpieces
    rw [← (List.cons.inj hpieces).1] at hp
    cases hp

theorem pieces_trim (s : Text) :
    pieces (trim s) = ((pieces s).dropWhile Piece.isBlank).rdropWhile Piece.isBlank := by
  have hsuffix : (pieces s).dropWhile Piece.isBlank <:+ pieces s := List.dropWhile_suffix _
  rw [trim_eq]
  generalize (pieces s).dropWhile Piece.isBlank = ps at hsuffix
  have hcut : ps.rdropWhile Piece.isBlank ++ ps.rtakeWhile Piece.isBlank = ps := List.rdropWhile_append_rtakeWhile ..
  have hblank : ∀ p ∈ ps.rtakeWhile Piece.isBlank, p.isBlank = true := fun p hp => List.mem_rtakeWhile_imp hp
  generalize ps.rdropWhile Piece.isBlank = front at hcut ⊢
  generalize ps.rtakeWhile Piece.isBlank = back at hcut hblank
  subst hcut
  cases back with
  | nil => simpa using pieces_ofPieces_suffix hsuffix
  | cons p back =>
    -- what is cut off at the end starts with a white-space character, which is well-formed
    have hback : p :: back <:+ pieces s := (List.suffix_append front (p :: back)).trans hsuffix
    have hstray : p.isStray = false := by
      have hp := hblank p (List.mem_cons_self ..)
      cases p with
      | scalar => rfl
      | stray => cases hp
    have hwhole := pieces_ofPieces_suffix hsuffix
    have happend : ofPieces (front ++ p :: back) = ofPieces front ++ ofPieces (p :: back) := List.flatMap_append ..
    rw [happend, pieces_append _ (startsFresh_ofPieces hback hstray), pieces_ofPieces_suffix hback] at hwhole
    exact List.append_cancel_right hwhole

/-- **Trimming twice is trimming once.** -/
theorem trim_trim (s : Text) : trim (trim s) = trim s := by
  rw [trim_eq_self_iff, pieces_trim]
  refine ⟨?_, List.rdropWhile_idempotent ..⟩
  obtain ⟨rest, hrest⟩ := List.rdropWhile_prefix Piece.isBlank ((pieces s).dropWhile Piece.isBlank)
  cases hfront : ((pieces s).dropWhile Piece.isBlank).rdropWhile Piece.isBlank with
  | nil => rfl
  | cons p front =>
    rw [hfront, List.cons_append] at hrest
    have hp : p.isBlank = false := by
      have hhead := List.head?_dropWhile_not Piece.isBlank (pieces s)
      simpa [← hrest] using hhead
    rw [List.dropWhile_cons_of_neg (by simp [hp])]

theorem trim_sublist (s : Text) : (trim s).Sublist s := by
  have hsub := ((List.rdropWhile_prefix Piece.isBlank ((pieces s).dropWhile Piece.isBlank)).sublist.trans
    (List.dropWhile_suffix _).sublist).flatMap Piece.bytes
  conv_rhs => rw [← ofPieces_pieces s]
  exact hsub

/-- Trimming leaves no visible byte out. -/
theorem mem_trim_of_visible {s : Text} {b : UInt8} (hlow : 0x20 < b) (hhigh : b < 0x80) (h : b ∈ s) : b ∈ trim s := by
  obtain ⟨front, back, rfl⟩ := List.append_of_mem h
  have hpieces : Piece.scalar b.toNat [b] ∈ pieces (front ++ b :: back) := by
    rw [pieces_append front (startsFresh_ascii hhigh back), pieces_ascii hhigh]
    simp
  have hblank := isBlank_visible hlow hhigh
  -- a piece that is not blank is not among those dropped
  have hkeep {ps : List Piece} (hp : Piece.scalar b.toNat [b] ∈ ps) :
      Piece.scalar b.toNat [b] ∈ ps.dropWhile Piece.isBlank := by
    rw [← @List.takeWhile_append_dropWhile _ Piece.isBlank ps, List.mem_append] at hp
    refine hp.resolve_left fun htake => ?_
    rw [List.mem_takeWhile_imp htake] at hblank
    cases hblank
  rw [trim]
  exact List.mem_flatMap.2 ⟨_, List.mem_reverse.2 (hkeep (List.mem_reverse.2 (hkeep hpieces))), List.mem_singleton.2 rfl⟩

theorem trim_space_cons (s : Text) : trim (space :: s) = trim s := by
  rw [trim_eq, trim_eq, pieces_ascii (by decide)]
  rfl

theorem trim_append_cr (s : Text) : trim (s ++ [cr]) = trim s := by
  have hpieces : pieces (s ++ [cr]) = pieces s ++ [.scalar 0x0d [cr]] := pieces_append s (startsFresh_ascii (by decide) [])
  have hblank : Piece.isBlank (.scalar 0x0d [cr]) = true := by decide
  rw [trim_eq, trim_eq, hpieces, List.dropWhile_append]
  split
  · next hnone => rw [List.dropWhile_cons_of_pos hblank, List.isEmpty_iff.1 hnone, List.dropWhile_nil]
  · rw [List.rdropWhile_concat_pos _ _ _ hblank]

/-- Nothing is trimmed from `fn` and a trimmed name. -/
theorem trim_fn {s : Text} (h : trim s = s) (hne : s ≠ []) :
    trim (0x66 :: 0x6e :: space :: s) = 0x66 :: 0x6e :: space :: s := by
  have hpieces : pieces (0x66 :: 0x6e :: space :: s) =
      [.scalar 0x66 [0x66], .scalar 0x6e [0x6e], .scalar 0x20 [space]] ++ pieces s := by
    rw [pieces_ascii (by decide), pieces_ascii (by decide), pieces_ascii (by decide)]
    rfl
  have hps : pieces s ≠ [] := by
    intro hnil
    exact hne (by rw [← ofPieces_pieces s, hnil]; rfl)
  rw [trim_eq_self_iff, hpieces]
  refine ⟨by simp [Piece.isBlank, isBlankCode], ?_⟩
  rw [List.rdropWhile_eq_self_iff]
  intro hne'
  rw [List.getLast_append_of_ne_nil _ hps]
  exact List.rdropWhile_eq_self_iff.1 (trim_eq_self_iff.1 h).2 hps

theorem dropEnd_of_trimmed {s : Text} (h : trim s = s) : dropEnd s isLineEnd = s := by
  rw [dropEnd_eq, List.rdropWhile_eq_self_iff]
  intro hne hend
  obtain ⟨front, b, rfl⟩ : ∃ front b, s = front ++ [b] := ⟨_, _, (List.dropLast_append_getLast hne).symm⟩
  simp only [List.getLast_append_singleton] at hend
  have hb : b = cr ∨ b = lf := by simpa [isLineEnd] using hend
  have hascii : b < 0x80 := by rcases hb with rfl | rfl <;> decide
  have hpieces : pieces (front ++ [b]) = pieces front ++ [.scalar b.toNat [b]] := by
    rw [pieces_append front (startsFresh_ascii hascii []), pieces_ascii hascii]
    rfl
  have hlast := List.rdropWhile_eq_self_iff.1 (trim_eq_self_iff.1 h).2 (by simp [hpieces])
  simp only [hpieces, List.getLast_append_singleton] at hlast
  rcases hb with rfl | rfl <;> exact hlast (by decide)

theorem dropEnd_append_of_trimmed {s : Text} (h : trim s = s) (hne : s ≠ []) (front : Text) :
    dropEnd (front ++ s) isLineEnd = front ++ s := by
  have hself := dropEnd_of_trimmed h
  obtain ⟨init, b, rfl⟩ : ∃ init b, s = init ++ [b] := ⟨_, _, (List.dropLast_append_getLast hne).symm⟩
  have hb : isLineEnd b = false := by
    have := List.rdropWhile_eq_self_iff.1 hself (by simp)
    simpa using this
  rw [← List.append_assoc, dropEnd_concat_of_not hb]

/-! ## validity -/

theorem valid_append (s : Text) {t : Text} (ht : StartsFresh t) : valid (s ++ t) = (valid s && valid t) := by
  simp [valid, pieces_append s ht]

theorem valid_ascii {a : UInt8} (ha : a < 0x80) (r : Text) : valid (a :: r) = valid r := by
  simp [valid, pieces_ascii ha, Piece.isStray]

theorem valid_dropEnd {s : Text} (h : valid s = true) : valid (dropEnd s isLineEnd) = true := by
  have hcat : dropEnd s isLineEnd ++ s.rtakeWhile isLineEnd = s := by
    rw [dropEnd_eq, List.rdropWhile_append_rtakeWhile]
  have hfresh : StartsFresh (s.rtakeWhile isLineEnd) := by
    intro b hb
    have hend : isLineEnd b = true := List.mem_rtakeWhile_imp (List.mem_of_mem_head? hb)
    have : b = cr ∨ b = lf := by simpa [isLineEnd] using hend
    rcases this with rfl | rfl <;> decide
  rw [← hcat, valid_append _ hfresh, Bool.and_eq_true] at h
  exact h.1

theorem foldl_repairStep {ps : List Piece} (h : ∀ p ∈ ps, p.isStray = false) : ∀ state : Text × Bool,
    (ps.foldl repairStep state).1 = (ofPieces ps).reverse ++ state.1 := by
  induction ps with
  | nil => intro state; rfl
  | cons p ps ih =>
    intro state
    have hp := h p (List.mem_cons_self ..)
    rw [List.foldl_cons, ih fun q hq => h q (List.mem_cons_of_mem _ hq)]
    cases p with
    | scalar c bs => simp [repairStep, ofPieces, Piece.bytes]
    | stray b => simp [Piece.isStray] at hp

theorem repair_of_valid {s : Text} (h : valid s = true) : repair s = s := by
  have hstray : ∀ p ∈ pieces s, p.isStray = false := by simpa [valid] using h
  rw [repair, foldl_repairStep hstray, ofPieces_pieces]
  simp

end CastAudit.Text
