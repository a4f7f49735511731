import CastAudit.Text.Decimal
import Mathlib.Tactic.Common

/-!
# Printed numbers

`digitsFrom` puts the digits of a number before what is there already, so a reader that has nothing yet has read
the number itself when it comes to the rest.

* `foldl_digitsFrom` — that, for the reader of plain digits;
* `magnitudeFrom_of_digits` — the bounded reader gives the same value, or the bound if that is less;
* `readInt64_of_isDigits` — a run of digits of any length is read as its value, or refused if that is above 64 bits;
* `readInt64_ofInt` — every signed 64-bit number is read back from its decimal form, and `readStoredInt_ofInt` — by the
  store as well.
-/

namespace CastAudit.Text

/-- The byte of a decimal digit. -/
def digitByte (d : Nat) : UInt8 := (0x30 + d).toUInt8

theorem toNat_digitByte {d : Nat} (h : d < 10) : (digitByte d).toNat = 0x30 + d := by
  have : (digitByte d).toNat = (0x30 + d) % 256 := rfl
  omega

theorem isDigit_digitByte {d : Nat} (h : d < 10) : isDigit (digitByte d) = true := by
  have hnat := toNat_digitByte h
  have hlow : (0x30 : UInt8) ≤ digitByte d := UInt8.le_iff_toNat_le.2 (by rw [hnat]; simp)
  have hhigh : digitByte d ≤ (0x39 : UInt8) := UInt8.le_iff_toNat_le.2 (by rw [hnat]; simp; omega)
  simp [isDigit, hlow, hhigh]

theorem ne_of_isDigit {b c : UInt8} (hb : isDigit b = true) (hc : isDigit c = false) : b ≠ c := by
  rintro rfl
  rw [hb] at hc
  cases hc

section Digits

variable {fuel n : Nat}

/-- One turn of the loop. -/
theorem digitsFrom_succ (fuel n : Nat) (acc : Text) :
    digitsFrom (fuel + 1) n acc =
      if n < 10 then digitByte (n % 10) :: acc else digitsFrom fuel (n / 10) (digitByte (n % 10) :: acc) := rfl

/-- The digits of a number are put before what is there. -/
theorem exists_digitsFrom (h : n < fuel) : ∀ acc : Text,
    ∃ ds : Text, digitsFrom fuel n acc = ds ++ acc ∧ ds ≠ [] ∧ ∀ b ∈ ds, isDigit b = true := by
  induction fuel generalizing n with
  | zero => exact absurd h (by omega)
  | succ fuel ih =>
    intro acc
    have hdigit : isDigit (digitByte (n % 10)) = true := isDigit_digitByte (Nat.mod_lt n (by decide))
    rw [digitsFrom_succ]
    split
    · exact ⟨[digitByte (n % 10)], rfl, by simp, by simpa using hdigit⟩
    · next hten =>
      obtain ⟨ds, hds, hne, hall⟩ := ih (n := n / 10) (by omega) (digitByte (n % 10) :: acc)
      refine ⟨ds ++ [digitByte (n % 10)], by simp [hds], by simp, ?_⟩
      intro b hb
      rcases List.mem_append.1 hb with hb | hb
      · exact hall b hb
      · rw [List.mem_singleton.1 hb]
        exact hdigit

/-- A reader of plain digits comes to the rest with the number. -/
theorem foldl_digitsFrom (h : n < fuel) : ∀ acc : Text,
    (digitsFrom fuel n acc).foldl (fun k b => k * 10 + (b.toNat - 0x30)) 0 =
      acc.foldl (fun k b => k * 10 + (b.toNat - 0x30)) n := by
  induction fuel generalizing n with
  | zero => exact absurd h (by omega)
  | succ fuel ih =>
    intro acc
    have hvalue : n / 10 * 10 + ((digitByte (n % 10)).toNat - 0x30) = n := by
      rw [toNat_digitByte (Nat.mod_lt n (by decide))]
      omega
    rw [digitsFrom_succ]
    split
    · next hten =>
      rw [List.foldl_cons]
      rw [Nat.div_eq_of_lt hten] at hvalue
      rw [hvalue]
    · rw [ih (n := n / 10) (by omega), List.foldl_cons, hvalue]

end Digits

/-! ## runs of digits -/

theorem baseDigit?_of_isDigit {b : UInt8} (h : isDigit b = true) : baseDigit? 10 b = some (b.toNat - 0x30) := by
  have hrange : 0x30 ≤ b.toNat ∧ b.toNat ≤ 0x39 := by
    simpa [isDigit, UInt8.le_iff_toNat_le] using h
  have hvalue : hexValue b = b.toNat - 0x30 := by simp [hexValue, h]
  have hten : b.toNat - 0x30 < 10 := by omega
  simp [baseDigit?, isHexDigit, h, hvalue, hten]

theorem le_foldl_digits (s : Text) : ∀ n : Nat, n ≤ s.foldl (fun k b => k * 10 + (b.toNat - 0x30)) n := by
  induction s with
  | nil => exact Nat.le_refl
  | cons b s ih =>
    intro n
    have := ih (n * 10 + (b.toNat - 0x30))
    rw [List.foldl_cons]
    omega

/-- **The bounded reader gives the value of the digits**, or the bound if the value reaches it. -/
theorem magnitudeFrom_of_digits {s : Text} (h : ∀ b ∈ s, isDigit b = true) : ∀ {n : Nat}, n < tooLarge →
    magnitudeFrom 10 false n s = .ok (min (s.foldl (fun k b => k * 10 + (b.toNat - 0x30)) n) tooLarge) := by
  induction s with
  | nil =>
    intro n hn
    rw [magnitudeFrom, List.foldl_nil, Nat.min_eq_left (Nat.le_of_lt hn)]
  | cons b s ih =>
    intro n hn
    rw [List.forall_mem_cons] at h
    simp only [magnitudeFrom, Bool.false_and, Bool.false_eq_true, if_false, baseDigit?_of_isDigit h.1, List.foldl_cons]
    split
    · next hsmall => exact ih h.2 hsmall
    · next hlarge =>
      have hgrown := le_foldl_digits s (n * 10 + (b.toNat - 0x30))
      rw [Nat.min_eq_right (by omega)]

theorem isDigits_iff {s : Text} : isDigits s = true ↔ s ≠ [] ∧ ∀ b ∈ s, isDigit b = true := by
  simp [isDigits]

theorem signOf_of_isDigits {s : Text} (h : isDigits s = true) : signOf s = (false, s) := by
  obtain ⟨hne, hall⟩ := isDigits_iff.1 h
  obtain ⟨b, r, rfl⟩ := List.exists_cons_of_ne_nil hne
  have hb := hall b (List.mem_cons_self ..)
  have hdash : b ≠ dash := ne_of_isDigit hb (by decide)
  have hplus : b ≠ 0x2b := ne_of_isDigit hb (by decide)
  simp [signOf, hdash, hplus]

/-- **A run of digits is read as its value**, however long it is, and refused if that is above the range. -/
theorem readInt64_of_isDigits {s : Text} (h : isDigits s = true) : readInt64 s =
    if (digitsValue s : Int) ≤ maxInt64 then .ok (digitsValue s : Int) else .error (.outOfRange maxInt64) := by
  obtain ⟨hne, hall⟩ := isDigits_iff.1 h
  have hempty : s.isEmpty = false := by simpa using hne
  have hvalue : magnitudeFrom 10 false 0 s = .ok (min (digitsValue s) tooLarge) :=
    magnitudeFrom_of_digits hall (by decide)
  have hread : readInt64 s = signed64 false (min (digitsValue s) tooLarge) := by
    simp only [readInt64, signOf_of_isDigits h, hempty, hvalue]
    rfl
  rw [hread, signed64]
  simp only [tooLarge, maxInt64, Bool.false_eq_true, if_false]
  split
  · next hsmall =>
    rw [if_pos (by omega), Nat.min_eq_left (by omega)]
  · next hlarge => rw [if_neg (by omega)]

theorem wrap64_eq_self {i : Int} (hmin : minInt64 ≤ i) (hmax : i ≤ maxInt64) : wrap64 i = i := by
  simp only [minInt64, maxInt64] at hmin hmax
  exact Int.bmod_eq_of_le (by omega) (by omega)

/-! ## decimal forms -/

theorem ofNat_digits (n : Nat) : ofNat n ≠ [] ∧ ∀ b ∈ ofNat n, isDigit b = true := by
  obtain ⟨ds, hds, hne, hall⟩ := exists_digitsFrom (Nat.lt_succ_self n) []
  have hof : ofNat n = ds := by rw [ofNat, hds, List.append_nil]
  rw [hof]
  exact ⟨hne, hall⟩

theorem isDigits_ofNat (n : Nat) : isDigits (ofNat n) = true := isDigits_iff.2 (ofNat_digits n)

theorem digitsValue_ofNat (n : Nat) : digitsValue (ofNat n) = n := foldl_digitsFrom (Nat.lt_succ_self n) []

theorem magnitude_ofNat {n : Nat} (h : n < tooLarge) : magnitudeFrom 10 false 0 (ofNat n) = .ok n := by
  have hvalue : magnitudeFrom 10 false 0 (ofNat n) = .ok (min (digitsValue (ofNat n)) tooLarge) :=
    magnitudeFrom_of_digits (ofNat_digits n).2 (by decide)
  rw [hvalue, digitsValue_ofNat, Nat.min_eq_left (Nat.le_of_lt h)]

/-- A byte that is neither a digit nor a hyphen is in no decimal form. -/
theorem not_mem_ofInt {c : UInt8} (hc : isDigit c = false) (hdash : c ≠ dash) (i : Int) : c ∉ ofInt i := by
  have hnat : c ∉ ofNat i.natAbs := fun hmem => ne_of_isDigit ((ofNat_digits _).2 c hmem) hc rfl
  unfold ofInt
  split
  · simp [hdash, hnat]
  · exact hnat

theorem ascii_ofInt (i : Int) : ∀ b ∈ ofInt i, b < 0x80 := by
  intro b hb
  by_contra hhigh
  rw [UInt8.not_lt, UInt8.le_iff_toNat_le] at hhigh
  have hdigit : isDigit b = false := by
    simp only [isDigit, Bool.and_eq_false_iff, decide_eq_false_iff_not, UInt8.le_iff_toNat_le]
    exact .inr (Nat.not_le.2 (Nat.lt_of_lt_of_le (by decide) hhigh))
  have hdash : b ≠ dash := by
    rintro rfl
    exact absurd hhigh (by decide)
  exact not_mem_ofInt hdigit hdash i hb

theorem signOf_ofInt (i : Int) : signOf (ofInt i) = (decide (i < 0), ofNat i.natAbs) := by
  unfold ofInt
  split
  · next hneg => simp [signOf, hneg]
  · next hneg => simp [signOf_of_isDigits (isDigits_ofNat _), hneg]

theorem sign_natAbs (i : Int) : (if decide (i < 0) = true then -(i.natAbs : Int) else i.natAbs) = i := by
  by_cases h : i < 0
  · rw [if_pos (decide_eq_true h)]
    omega
  · rw [if_neg (by simpa using h)]
    omega

/-- **A number is read back from its decimal form.** -/
theorem readInt64_ofInt {i : Int} (hmin : minInt64 ≤ i) (hmax : i ≤ maxInt64) : readInt64 (ofInt i) = .ok i := by
  simp only [minInt64, maxInt64] at hmin hmax
  have hsmall : i.natAbs < tooLarge := by
    simp only [tooLarge]
    omega
  have hne : (ofNat i.natAbs).isEmpty = false := by simpa using (ofNat_digits i.natAbs).1
  have hread : readInt64 (ofInt i) = signed64 (decide (i < 0)) i.natAbs := by
    simp only [readInt64, signOf_ofInt, hne, magnitude_ofNat hsmall]
    rfl
  rw [hread, signed64]
  split
  · next hneg =>
    have : i < 0 := of_decide_eq_true hneg
    rw [if_pos (by omega)]
    congr 1
    omega
  · next hneg =>
    have : ¬ i < 0 := by simpa using hneg
    rw [if_pos (by omega)]
    congr 1
    omega

/-- The store reads it back too, by plain digits if it is short. -/
theorem readStoredInt_ofInt {i : Int} (hmin : minInt64 ≤ i) (hmax : i ≤ maxInt64) :
    readStoredInt (ofInt i) = .ok i := by
  unfold readStoredInt
  rw [signOf_ofInt]
  simp only [isDigits_ofNat, if_true, digitsValue_ofNat, sign_natAbs, readInt64_ofInt hmin hmax, ite_self]

end CastAudit.Text
