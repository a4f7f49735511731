import CastAudit.Proofs.Text.Characters

/-!
# Valid texts

A text is valid if it holds well-formed characters only. Fields of a record are cut out of a valid line, and a location
out of a line of any bytes, which is repaired first.

* `IsScalar code bytes` — the bytes of one well-formed character, and `pieces_scalar_append` — such bytes are read as it
  whatever follows;
* `pieces_ofPieces` — well-formed characters in a row are read as they are, so that a repaired text is valid
  (`valid_repair`);
* `valid_append_ascii` — a text may be cut at an ASCII character, and both parts are valid if it is;
* `Bare s` — a text without white space at its ends, which is one that trimming leaves alone (`bare_iff`).
-/

namespace CastAudit.Text

/-! ## characters -/

/-- The bytes of a well-formed character and its code. -/
inductive IsScalar : Nat → Text → Prop
  | ascii {a : UInt8} (h : a < 0x80) : IsScalar a.toNat [a]
  | pair {a b : UInt8} (h : isPair a b = true) : IsScalar (pairCode a b) [a, b]
  | triple {a b c : UInt8} (h : isTriple a b c = true) : IsScalar (tripleCode a b c) [a, b, c]
  | quad {a b c d : UInt8} (h : isQuad a b c d = true) : IsScalar (quadCode a b c d) [a, b, c, d]

theorem isScalar_of_leading {a : UInt8} {r bytes : Text} {code : Nat} (h : leading a r = .scalar code bytes) :
    IsScalar code bytes := by
  unfold leading at h
  split at h
  · next ha =>
    cases h
    exact .ascii ha
  · split at h
    · cases h
    · split at h
      · next hpair =>
        cases h
        exact .pair hpair
      · split at h
        · cases h
        · split at h
          · next htriple =>
            cases h
            exact .triple htriple
          · split at h
            · cases h
            · split at h
              · next hquad =>
                cases h
                exact .quad hquad
              · cases h

theorem isScalar_of_mem_pieces {s bytes : Text} {code : Nat} (h : .scalar code bytes ∈ pieces s) :
    IsScalar code bytes := by
  induction s using pieces_induction with
  | nil => simp at h
  | cons a r ih =>
    rw [pieces_cons, List.mem_cons] at h
    rcases h with h | h
    · exact isScalar_of_leading h.symm
    · exact ih h

section Bytes

variable {a b c d : UInt8}

theorem isTail_iff : isTail a = true ↔ 0x80 ≤ a.toNat ∧ a.toNat ≤ 0xbf := by
  simp [isTail, UInt8.le_iff_toNat_le]

theorem isPair_iff : isPair a b = true ↔ (0xc2 ≤ a.toNat ∧ a.toNat ≤ 0xdf) ∧ 0x80 ≤ b.toNat ∧ b.toNat ≤ 0xbf := by
  simp [isPair, isTail_iff, UInt8.le_iff_toNat_le]

theorem isTriple_bounds (h : isTriple a b c = true) :
    (0xe0 ≤ a.toNat ∧ a.toNat ≤ 0xef) ∧ (0x80 ≤ b.toNat ∧ b.toNat ≤ 0xbf) ∧ (0x80 ≤ c.toNat ∧ c.toNat ≤ 0xbf) ∧
      (a.toNat = 0xe0 → 0xa0 ≤ b.toNat) ∧ (a.toNat = 0xed → b.toNat ≤ 0x9f) := by
  simp only [isTriple, Bool.and_eq_true, decide_eq_true_eq, isTail_iff, UInt8.le_iff_toNat_le] at h
  refine ⟨h.1.1.1.1, h.1.1.1.2, h.1.1.2, fun ha => ?_, fun ha => ?_⟩
  · have ha : a = 0xe0 := UInt8.toNat_inj.1 ha
    simpa [ha, UInt8.le_iff_toNat_le] using h.1.2
  · have ha : a = 0xed := UInt8.toNat_inj.1 ha
    simpa [ha, UInt8.le_iff_toNat_le] using h.2

theorem isQuad_bounds (h : isQuad a b c d = true) :
    (0xf0 ≤ a.toNat ∧ a.toNat ≤ 0xf4) ∧ (0x80 ≤ b.toNat ∧ b.toNat ≤ 0xbf) ∧ (0x80 ≤ c.toNat ∧ c.toNat ≤ 0xbf) ∧
      (0x80 ≤ d.toNat ∧ d.toNat ≤ 0xbf) ∧ (a.toNat = 0xf0 → 0x90 ≤ b.toNat) ∧ (a.toNat = 0xf4 → b.toNat ≤ 0x8f) := by
  simp only [isQuad, Bool.and_eq_true, decide_eq_true_eq, isTail_iff, UInt8.le_iff_toNat_le] at h
  refine ⟨h.1.1.1.1.1, h.1.1.1.1.2, h.1.1.1.2, h.1.1.2, fun ha => ?_, fun ha => ?_⟩
  · have ha : a = 0xf0 := UInt8.toNat_inj.1 ha
    simpa [ha, UInt8.le_iff_toNat_le] using h.1.2
  · have ha : a = 0xf4 := UInt8.toNat_inj.1 ha
    simpa [ha, UInt8.le_iff_toNat_le] using h.2

end Bytes

/-- **The bytes of a character are read as it**, whatever follows them. -/
theorem pieces_scalar_append {code : Nat} {bytes : Text} (h : IsScalar code bytes) (t : Text) :
    pieces (bytes ++ t) = .scalar code bytes :: pieces t := by
  have hhigh {a : UInt8} (ha : 0x80 ≤ a.toNat) : ¬a < 0x80 := by
    rw [UInt8.lt_iff_toNat_lt]
    exact Nat.not_lt.2 ha
  have hpair {a : UInt8} (ha : 0xe0 ≤ a.toNat) (b : UInt8) : isPair a b = false := by
    rw [← Bool.not_eq_true, isPair_iff]
    omega
  cases h with
  | ascii ha => exact pieces_ascii ha t
  | pair hab =>
    have ha := hhigh (Nat.le_trans (by decide) (isPair_iff.1 hab).1.1)
    simp [pieces_cons, leading, ha, hab, Piece.bytes]
  | triple habc =>
    have hbounds := (isTriple_bounds habc).1.1
    have ha := hhigh (Nat.le_trans (by decide) hbounds)
    simp [pieces_cons, leading, ha, hpair hbounds, habc, Piece.bytes]
  | @quad a b c d habcd =>
    have hbounds := (isQuad_bounds habcd).1.1
    have ha := hhigh (Nat.le_trans (by decide) hbounds)
    have htriple : isTriple a b c = false := by
      rw [← Bool.not_eq_true]
      intro htriple
      have := (isTriple_bounds htriple).1.2
      omega
    simp [pieces_cons, leading, ha, hpair (Nat.le_trans (by decide) hbounds), htriple, habcd, Piece.bytes]

theorem isScalar_replacement : IsScalar 0xfffd replacement := by
  have hcode : tripleCode 0xef 0xbf 0xbd = 0xfffd := by decide
  exact hcode ▸ .triple (by decide)

/-- A well-formed character. -/
def Piece.Sound : Piece → Prop
  | .scalar code bytes => IsScalar code bytes
  | .stray _ => False

/-- **Characters in a row are read as they are.** -/
theorem pieces_ofPieces {ps : List Piece} (h : ∀ p ∈ ps, p.Sound) : pieces (ofPieces ps) = ps := by
  induction ps with
  | nil => rfl
  | cons p ps ih =>
    rw [List.forall_mem_cons] at h
    cases p with
    | stray b => exact absurd h.1 id
    | scalar code bytes =>
      have hcons : ofPieces (.scalar code bytes :: ps) = bytes ++ ofPieces ps := List.flatMap_cons ..
      rw [hcons, pieces_scalar_append h.1, ih h.2]

theorem valid_iff {s : Text} : valid s = true ↔ ∀ p ∈ pieces s, p.isStray = false := by
  simp [valid]

theorem valid_ofPieces {ps : List Piece} (h : ∀ p ∈ ps, p.Sound) : valid (ofPieces ps) = true := by
  rw [valid_iff, pieces_ofPieces h]
  intro p hp
  cases p with
  | scalar => rfl
  | stray => exact absurd (h _ hp) id

/-! ## repair -/

/-- What has been written so far are well-formed characters. -/
def Written (state : Text × Bool) : Prop := ∃ ps, (∀ p ∈ ps, Piece.Sound p) ∧ state.1.reverse = ofPieces ps

theorem Written.append {state : Text × Bool} (h : Written state) {code : Nat} {bytes : Text}
    (hbytes : IsScalar code bytes) (flag : Bool) : Written (bytes.reverse ++ state.1, flag) := by
  obtain ⟨ps, hps, htext⟩ := h
  refine ⟨ps ++ [.scalar code bytes], ?_, ?_⟩
  · rw [List.forall_mem_append, List.forall_mem_singleton]
    exact ⟨hps, hbytes⟩
  · simp [ofPieces, htext, Piece.bytes]

theorem Written.repairStep {state : Text × Bool} (h : Written state) {p : Piece}
    (hp : ∀ code bytes, p = .scalar code bytes → IsScalar code bytes) : Written (repairStep state p) := by
  cases p with
  | scalar code bytes => exact h.append (hp code bytes rfl) false
  | stray b =>
    rw [Text.repairStep]
    split
    · exact h
    · exact h.append isScalar_replacement true

/-- **A repaired text is valid.** -/
theorem valid_repair (s : Text) : valid (repair s) = true := by
  have hwritten : ∀ (ps : List Piece), (∀ p ∈ ps, p ∈ pieces s) → ∀ state, Written state →
      Written (ps.foldl repairStep state) := by
    intro ps
    induction ps with
    | nil => exact fun _ state h => h
    | cons p ps ih =>
      intro hps state h
      rw [List.forall_mem_cons] at hps
      exact ih hps.2 _ (h.repairStep fun code bytes hp => isScalar_of_mem_pieces (hp ▸ hps.1))
  obtain ⟨ps, hps, htext⟩ := hwritten (pieces s) (fun _ hp => hp) ([], false) ⟨[], by simp, rfl⟩
  rw [repair, htext]
  exact valid_ofPieces hps

/-! ## parts of a valid text -/

/-- **A text may be cut at an ASCII character.** -/
theorem valid_append_ascii {b : UInt8} (hb : b < 0x80) (s t : Text) :
    valid (s ++ b :: t) = (valid s && valid t) := by
  rw [valid_append s (startsFresh_ascii hb t), valid_ascii hb]

theorem valid_of_ascii_append {p : Text} (hp : ∀ b ∈ p, b < 0x80) (s : Text) : valid (p ++ s) = valid s := by
  induction p with
  | nil => rfl
  | cons b p ih =>
    rw [List.forall_mem_cons] at hp
    rw [List.cons_append, valid_ascii hp.1, ih hp.2]

theorem valid_trim {s : Text} (h : valid s = true) : valid (trim s) = true := by
  rw [valid_iff] at h ⊢
  intro p hp
  rw [pieces_trim] at hp
  exact h p ((List.dropWhile_sublist _).mem ((List.rdropWhile_prefix _ _).sublist.mem hp))

theorem valid_chopPrefix {s p : Text} (hp : ∀ b ∈ p, b < 0x80) (h : valid s = true) :
    valid (chopPrefix s p) = true := by
  unfold chopPrefix
  split
  · next hstart =>
    have hcut := List.prefix_iff_eq_append.1 (startsWith_iff.1 hstart)
    rwa [← hcut, valid_of_ascii_append hp] at h
  · exact h

/-! ## ends -/

/-- The text neither starts nor ends with white space. -/
def Bare (s : Text) : Prop :=
  (∀ p ∈ (pieces s).head?, p.isBlank = false) ∧ ∀ p ∈ (pieces s).getLast?, p.isBlank = false

/-- **Trimming leaves exactly the texts without white space at their ends alone.** -/
theorem bare_iff {s : Text} : Bare s ↔ trim s = s := by
  rw [trim_eq_self_iff, List.dropWhile_eq_self_iff, List.rdropWhile_eq_self_iff, Bare]
  refine and_congr ?_ ?_
  · cases pieces s <;> simp
  · rcases List.eq_nil_or_concat (pieces s) with hps | ⟨ps, p, hps⟩ <;> simp [hps]

theorem bare_trim (s : Text) : Bare (trim s) := bare_iff.2 (trim_trim s)

theorem bare_nil : Bare [] := bare_trim []

/-- Two texts without white space at their ends are one with a visible character between them. -/
theorem Bare.append {s t : Text} (hs : Bare s) (ht : Bare t) {b : UInt8} (hb : b < 0x80)
    (hvisible : isBlankCode b.toNat = false) : Bare (s ++ b :: t) := by
  have hpieces : pieces (s ++ b :: t) = pieces s ++ .scalar b.toNat [b] :: pieces t := by
    rw [pieces_append s (startsFresh_ascii hb t), pieces_ascii hb]
  have hbyte : Piece.isBlank (.scalar b.toNat [b]) = false := hvisible
  refine ⟨?_, ?_⟩
  · rw [hpieces]
    cases hfirst : pieces s with
    | nil => simpa using hbyte
    | cons p ps => simpa [hfirst] using hs.1
  · rw [hpieces]
    cases hlast : pieces t with
    | nil => simpa using hbyte
    | cons p ps =>
      rw [List.getLast?_append_of_ne_nil _ (by simp), List.getLast?_cons_cons, ← hlast]
      exact ht.2

end CastAudit.Text
