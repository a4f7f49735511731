import CastAudit.Json.Printer
import CastAudit.Json.Reader
import CastAudit.Proofs.Text.Validity

/-!
# Strings in JSON

A text is written between quotes character by character. Reading undoes every escape, so what is lost are stray bytes
alone: each of them comes back as a replacement character.

* `IsScalar.encode_eq` — a code is encoded in the bytes of its character;
* `stringFrom_escapePiece` — one turn of reading for one turn of writing;
* `string?_quotedBody` — a text is read back as its `mend`, and `mend_of_valid` — which is the text itself if it is valid.
-/

namespace CastAudit

namespace Text

theorem toUInt8_eq_iff {n : Nat} {a : UInt8} : n.toUInt8 = a ↔ n % 256 = a.toNat := by
  rw [← UInt8.toNat_inj]
  rfl

/-- **A code is encoded in the bytes of its character.** -/
theorem IsScalar.encode_eq {code : Nat} {bytes : Text} (h : IsScalar code bytes) : encode code = bytes := by
  cases h with
  | @ascii a ha =>
    rw [UInt8.lt_iff_toNat_lt] at ha
    have ha : a.toNat < 0x80 := ha
    rw [encode, if_pos ha]
    simp
  | @pair a b hab =>
    have hbounds := isPair_iff.1 hab
    have h₁ : ¬pairCode a b < 0x80 := by simp only [pairCode, tailBits]; omega
    have h₂ : pairCode a b < 0x800 := by simp only [pairCode, tailBits]; omega
    rw [encode, if_neg h₁, if_pos h₂, List.cons.injEq, List.cons.injEq, toUInt8_eq_iff, toUInt8_eq_iff]
    simp only [pairCode, tailBits, and_true]
    omega
  | @triple a b c habc =>
    have hbounds := isTriple_bounds habc
    have h₁ : ¬tripleCode a b c < 0x80 := by simp only [tripleCode, tailBits]; omega
    have h₂ : ¬tripleCode a b c < 0x800 := by simp only [tripleCode, tailBits]; omega
    have h₃ : ¬(0xd800 ≤ tripleCode a b c ∧ tripleCode a b c ≤ 0xdfff) := by simp only [tripleCode, tailBits]; omega
    have h₄ : tripleCode a b c < 0x10000 := by simp only [tripleCode, tailBits]; omega
    rw [encode, if_neg h₁, if_neg h₂, if_neg h₃, if_pos h₄, List.cons.injEq, List.cons.injEq, List.cons.injEq,
      toUInt8_eq_iff, toUInt8_eq_iff, toUInt8_eq_iff]
    simp only [tripleCode, tailBits, and_true]
    omega
  | @quad a b c d habcd =>
    have hbounds := isQuad_bounds habcd
    have h₁ : ¬quadCode a b c d < 0x10000 := by simp only [quadCode, tailBits]; omega
    have h₂ : quadCode a b c d < 0x110000 := by simp only [quadCode, tailBits]; omega
    rw [encode, if_neg (by omega), if_neg (by omega), if_neg (by omega), if_neg h₁, if_pos h₂, List.cons.injEq,
      List.cons.injEq, List.cons.injEq, List.cons.injEq, toUInt8_eq_iff, toUInt8_eq_iff, toUInt8_eq_iff,
      toUInt8_eq_iff]
    simp only [quadCode, tailBits, and_true]
    omega

end Text

namespace Json

open Text (Piece IsScalar isScalar_replacement)

/-! ## mending -/

/-- The bytes that a piece is mended to. -/
def mendedBytes (p : Piece) : Text := if p.isStray then Text.replacement else p.bytes

/-- The piece that stands for a piece after mending. -/
def mendedPiece : Piece → Piece
  | .stray _ => .scalar 0xfffd Text.replacement
  | p => p

/-- A mended text holds a character for each piece. -/
theorem pieces_mend (s : Text) : Text.pieces (mend s) = (Text.pieces s).map mendedPiece := by
  have hall : ∀ ps : List Piece, (∀ p ∈ ps, p ∈ Text.pieces s) →
      Text.pieces (ps.flatMap mendedBytes) = ps.map mendedPiece := by
    intro ps hps
    induction ps with
    | nil => rfl
    | cons p ps ih =>
      rw [List.forall_mem_cons] at hps
      rw [List.flatMap_cons, List.map_cons, ← ih hps.2]
      cases p with
      | stray b => exact Text.pieces_scalar_append isScalar_replacement _
      | scalar code bytes => exact Text.pieces_scalar_append (Text.isScalar_of_mem_pieces hps.1) _
  exact hall _ fun _ hp => hp

theorem mend_mend (s : Text) : mend (mend s) = mend s := by
  have hmend : mend (mend s) = (Text.pieces (mend s)).flatMap mendedBytes := rfl
  rw [hmend, pieces_mend, List.flatMap_map]
  refine List.flatMap_congr fun p _ => ?_
  cases p <;> rfl

theorem mend_of_valid {s : Text} (h : Text.valid s = true) : mend s = s := by
  have hbytes : ∀ p ∈ Text.pieces s, (if p.isStray then Text.replacement else p.bytes) = p.bytes := by
    intro p hp
    have hstray : p.isStray = false := by
      simp only [Text.valid, Bool.not_eq_true', List.any_eq_false] at h
      simpa using h p hp
    simp [hstray]
  rw [mend, List.flatMap_congr hbytes]
  exact Text.ofPieces_pieces s

theorem mend_ne_nil {s : Text} (h : s ≠ []) : mend s ≠ [] := by
  intro hnil
  have hpieces := pieces_mend s
  rw [hnil, Text.pieces_nil, eq_comm, List.map_eq_nil_iff] at hpieces
  rw [← Text.ofPieces_pieces s, hpieces] at h
  exact h rfl

/-! ## reading what was written -/

/-- What stands behind the opening quote of a quoted text. -/
def quotedBody (s : Text) : Text := (Text.pieces s).flatMap escapePiece ++ [Text.quote]

theorem quote_eq (s : Text) : quote s = Text.quote :: quotedBody s := rfl

section Reading

variable {seen rest : Text} {b c d e x : UInt8} {code : Nat}

theorem stringFrom_quote : stringFrom seen none (Text.quote :: rest) = some (seen.reverse, rest) := by
  rw [stringFrom.eq_def]
  rfl

theorem stringFrom_plain (hquote : b ≠ Text.quote) (hescape : b ≠ Text.backslash) (hcontrol : ¬b < 0x20) :
    stringFrom seen none (b :: rest) = stringFrom (b :: seen) none rest := by
  rw [stringFrom.eq_def]
  split
  · next heq => cases heq
  · next heq => exact absurd (List.cons.inj heq).1 hescape
  · next heq =>
    obtain ⟨rfl, rfl⟩ := List.cons.inj heq
    simp [hquote, hescape, hcontrol]

theorem stringFrom_short (hu : e ≠ 0x75) (hx : shortEscape? e = some x) :
    stringFrom seen none (Text.backslash :: e :: rest) = stringFrom (x :: seen) none rest := by
  rw [stringFrom.eq_def]
  split
  · next heq => cases heq
  · next heq => exact absurd (List.cons.inj (List.cons.inj heq).2).1 hu
  · next heq =>
    obtain ⟨rfl, rfl⟩ := List.cons.inj heq
    have hquote : Text.backslash ≠ Text.quote := by decide
    simp [hx, hquote]

theorem stringFrom_unicode (hcode : hex4? b c d e = some code) (hhigh : isHigh code = false) :
    stringFrom seen none (Text.backslash :: 0x75 :: b :: c :: d :: e :: rest) =
      stringFrom (pushAll (Text.encode code) seen) none rest := by
  rw [stringFrom.eq_def]
  simp [hcode, hhigh]

/-- Bytes that need no escape are read as they are. -/
theorem stringFrom_append {bytes : Text} (h : ∀ b ∈ bytes, b ≠ Text.quote ∧ b ≠ Text.backslash ∧ ¬b < 0x20) :
    ∀ seen, stringFrom seen none (bytes ++ rest) = stringFrom (pushAll bytes seen) none rest := by
  induction bytes with
  | nil => exact fun _ => rfl
  | cons b bytes ih =>
    intro seen
    rw [List.forall_mem_cons] at h
    rw [List.cons_append, stringFrom_plain h.1.1 h.1.2.1 h.1.2.2, ih h.2]
    simp [pushAll]

theorem hexValue_hexDigit : ∀ n < 16, Text.isHexDigit (Text.hexDigit n) = true ∧ Text.hexValue (Text.hexDigit n) = n := by
  decide

theorem stringFrom_unicodeEscape (hcode : code < 0x10000) (hhigh : isHigh code = false) :
    stringFrom seen none (unicodeEscape code ++ rest) = stringFrom (pushAll (Text.encode code) seen) none rest := by
  have hhex : Text.hex 4 code = [Text.hexDigit (code / 4096 % 16), Text.hexDigit (code / 256 % 16),
      Text.hexDigit (code / 16 % 16), Text.hexDigit (code / 1 % 16)] := rfl
  have hdigit (n : Nat) := hexValue_hexDigit (n % 16) (Nat.mod_lt n (by decide))
  have hvalue : hex4? (Text.hexDigit (code / 4096 % 16)) (Text.hexDigit (code / 256 % 16))
      (Text.hexDigit (code / 16 % 16)) (Text.hexDigit (code / 1 % 16)) = some code := by
    simp only [hex4?, List.all_cons, List.all_nil, hdigit, Bool.and_self, if_true, Option.some.injEq]
    omega
  rw [unicodeEscape, hhex]
  exact stringFrom_unicode hvalue hhigh

/-- The bytes of a character that is written as it is need no escape. -/
theorem plain_of_isScalar {bytes : Text} (h : IsScalar code bytes) (hcode : 0x20 ≤ code ∧ code ≠ 0x22 ∧ code ≠ 0x5c) :
    ∀ b ∈ bytes, b ≠ Text.quote ∧ b ≠ Text.backslash ∧ ¬b < 0x20 := by
  have hplain {b : UInt8} (hb : 0x20 ≤ b.toNat ∧ b.toNat ≠ 0x22 ∧ b.toNat ≠ 0x5c) :
      b ≠ Text.quote ∧ b ≠ Text.backslash ∧ ¬b < 0x20 := by
    refine ⟨?_, ?_, ?_⟩
    · rintro rfl
      exact hb.2.1 rfl
    · rintro rfl
      exact hb.2.2 rfl
    · rw [UInt8.lt_iff_toNat_lt]
      exact Nat.not_lt.2 hb.1
  -- the bytes of a longer form are above all three
  have hhigh {b : UInt8} (hb : 0x80 ≤ b.toNat) := hplain (b := b) (by omega)
  cases h with
  | ascii ha => simpa using hplain hcode
  | pair hab =>
    have hbounds := Text.isPair_iff.1 hab
    simp only [List.forall_mem_cons]
    exact ⟨hhigh (by omega), hhigh (by omega), by simp⟩
  | triple habc =>
    have hbounds := Text.isTriple_bounds habc
    simp only [List.forall_mem_cons]
    exact ⟨hhigh (by omega), hhigh (by omega), hhigh (by omega), by simp⟩
  | quad habcd =>
    have hbounds := Text.isQuad_bounds habcd
    simp only [List.forall_mem_cons]
    exact ⟨hhigh (by omega), hhigh (by omega), hhigh (by omega), hhigh (by omega), by simp⟩

/-- **Reading a piece undoes writing it**, but for stray bytes, which are mended. -/
theorem stringFrom_escapePiece {s : Text} {p : Piece} (hp : p ∈ Text.pieces s) (seen : Text) :
    stringFrom seen none (escapePiece p ++ rest) = stringFrom (pushAll (mendedBytes p) seen) none rest := by
  cases p with
  | stray b => exact stringFrom_unicodeEscape (by decide) (by decide)
  | scalar code bytes =>
    have hscalar := Text.isScalar_of_mem_pieces hp
    have hbytes : mendedBytes (.scalar code bytes) = Text.encode code := hscalar.encode_eq.symm
    rw [hbytes, escapePiece, escapeCode]
    -- escapes of one letter first, then those by number; what is left stands for itself
    split_ifs with hself hback hfeed hline hreturn htab hcode
    · rw [← hscalar.encode_eq]
      rcases hself with rfl | rfl
      · exact stringFrom_short (by decide) (by decide)
      · exact stringFrom_short (by decide) (by decide)
    · subst hback
      exact stringFrom_short (by decide) (by decide)
    · subst hfeed
      exact stringFrom_short (by decide) (by decide)
    · subst hline
      exact stringFrom_short (by decide) (by decide)
    · subst hreturn
      exact stringFrom_short (by decide) (by decide)
    · subst htab
      exact stringFrom_short (by decide) (by decide)
    · refine stringFrom_unicodeEscape (by omega) ?_
      rw [isHigh, Bool.and_eq_false_iff, decide_eq_false_iff_not]
      exact .inl (by omega)
    · rw [hscalar.encode_eq]
      exact stringFrom_append (plain_of_isScalar hscalar (by omega)) seen

/-- **A text is read back from its quoted form**, with its stray bytes mended. -/
theorem string?_quotedBody (s rest : Text) : string? (quotedBody s ++ rest) = some (mend s, rest) := by
  have hall : ∀ ps : List Piece, (∀ p ∈ ps, p ∈ Text.pieces s) → ∀ seen,
      stringFrom seen none (ps.flatMap escapePiece ++ Text.quote :: rest) =
        some (seen.reverse ++ ps.flatMap mendedBytes, rest) := by
    intro ps hps
    induction ps with
    | nil =>
      intro seen
      simp [stringFrom_quote]
    | cons p ps ih =>
      intro seen
      rw [List.forall_mem_cons] at hps
      rw [List.flatMap_cons, List.flatMap_cons, List.append_assoc, stringFrom_escapePiece hps.1, ih hps.2]
      simp [pushAll]
  have hmend : (Text.pieces s).flatMap mendedBytes = mend s := rfl
  rw [string?, quotedBody, List.append_assoc, List.singleton_append, hall _ (fun _ hp => hp), List.reverse_nil,
    List.nil_append, hmend, Option.map_some, mend_mend]

end Reading

end Json

end CastAudit
