import CastAudit.Proofs.Text.Split

/-!
# Separators

How often a separator stands in a text, and what that says about the pieces between.

* `splitOn_byte_eq_iff`, `splitOn_byte_eq_iff_count` — the pieces at a byte are texts without it that it joins to the
  whole, one more than the places where it stands;
* `occurrences s sep` — the number of places of `s` at which `sep` stands;
* `splitOn_pair_eq_iff` — a text has two pieces at a pair of different bytes if the pair stands at one place of it,
  and then it stands between them.
-/

namespace CastAudit.Text

/-! ## single bytes -/

/-- Splitting at a single byte is the splitting of lists. -/
theorem splitFrom_byte (c : UInt8) (s : Text) : ∀ piece : Text,
    splitFrom [c] 0 piece [] s = List.splitOnPPrepend (· == c) s piece := by
  induction s with
  | nil => intro piece; simp [splitFrom]
  | cons b s ih =>
    intro piece
    rw [splitFrom, List.splitOnPPrepend_cons_eq_if]
    by_cases h : b = c
    · subst h
      have hstart : startsWith (b :: s) [b] = true := startsWith_append [b] s
      rw [if_pos hstart, splitFrom_done, List.length_singleton, ih]
      simp
    · simp [startsWith_byte_of_ne (Ne.symm h), h, ih]

theorem splitOn_byte (s : Text) (c : UInt8) : splitOn s [c] = List.splitOn c s := splitFrom_byte c s []

theorem not_mem_of_mem_splitOn {c : UInt8} {s p : Text} (h : p ∈ splitOn s [c]) : c ∉ p := by
  induction s generalizing p with
  | nil =>
    obtain rfl : p = [] := by simpa [splitOn, splitFrom] using h
    exact List.not_mem_nil
  | cons b s ih =>
    rw [splitOn_byte, List.splitOn_cons_eq_if_modifyHead, ← splitOn_byte] at h
    obtain ⟨first, rest, hsplit⟩ := List.exists_cons_of_ne_nil (List.splitOn_ne_nil c s)
    rw [← splitOn_byte] at hsplit
    by_cases hb : b = c
    · rw [if_pos (by simp [hb])] at h
      rcases List.mem_cons.1 h with rfl | h
      · exact List.not_mem_nil
      · exact ih h
    · rw [if_neg (by simpa using hb), hsplit, List.modifyHead_cons] at h
      rcases List.mem_cons.1 h with rfl | h
      · have := ih (hsplit ▸ List.mem_cons_self ..)
        simp [this, Ne.symm hb]
      · exact ih (hsplit ▸ List.mem_cons_of_mem first h)

/-- **The pieces at a byte** are the texts without it that it joins to the whole. -/
theorem splitOn_byte_eq_iff {c : UInt8} {s : Text} {ps : List Text} :
    splitOn s [c] = ps ↔ ps ≠ [] ∧ (∀ p ∈ ps, c ∉ p) ∧ join [c] ps = s := by
  constructor
  · rintro rfl
    refine ⟨?_, fun p hp => not_mem_of_mem_splitOn hp, ?_⟩
    · rw [splitOn_byte]
      exact List.splitOn_ne_nil c s
    · rw [splitOn_byte]
      exact List.intercalate_splitOn c
  · rintro ⟨hne, hfree, rfl⟩
    rw [splitOn_byte]
    exact List.splitOn_intercalate c hfree hne

theorem join_append {c : UInt8} {ps qs : List Text} (hps : ps ≠ []) (hqs : qs ≠ []) :
    join [c] (ps ++ qs) = join [c] ps ++ c :: join [c] qs := by
  have hcons (p : Text) {rest : List Text} (hrest : rest ≠ []) : join [c] (p :: rest) = p ++ c :: join [c] rest := by
    obtain ⟨q, rest, rfl⟩ := List.exists_cons_of_ne_nil hrest
    simp [join]
  induction ps with
  | nil => exact absurd rfl hps
  | cons p ps ih =>
    cases ps with
    | nil =>
      have hone : join [c] [p] = p := by simp [join]
      rw [List.singleton_append, hcons p hqs, hone]
    | cons q ps =>
      rw [List.cons_append, hcons p (by simp), ih (by simp), hcons p (by simp), List.append_assoc, List.cons_append]

/-- The pieces of a text around a byte are those before it and those behind it. -/
theorem splitOn_append_cons {c : UInt8} (s t : Text) : splitOn (s ++ c :: t) [c] = splitOn s [c] ++ splitOn t [c] := by
  obtain ⟨hne, hfree, hjoin⟩ := splitOn_byte_eq_iff.1 (Eq.refl (splitOn s [c]))
  obtain ⟨hne', hfree', hjoin'⟩ := splitOn_byte_eq_iff.1 (Eq.refl (splitOn t [c]))
  refine splitOn_byte_eq_iff.2 ⟨by simp [hne], fun p hp => ?_, ?_⟩
  · rcases List.mem_append.1 hp with hp | hp
    · exact hfree p hp
    · exact hfree' p hp
  · rw [join_append hne hne', hjoin, hjoin']

theorem count_join {c : UInt8} {ps : List Text} (hne : ps ≠ []) :
    (join [c] ps).count c + 1 = ps.length + ps.flatten.count c := by
  induction ps with
  | nil => exact absurd rfl hne
  | cons p ps ih =>
    cases ps with
    | nil => simp [join, Nat.add_comm]
    | cons q ps =>
      have hcons : join [c] (p :: q :: ps) = p ++ c :: join [c] (q :: ps) := by simp [join]
      have ih := ih (by simp)
      rw [List.flatten_cons, hcons, List.count_append, List.count_append, List.count_cons_self, List.length_cons]
      omega

/-- The pieces at a byte are one more than its places. -/
theorem splitOn_byte_eq_iff_count {c : UInt8} {s : Text} {ps : List Text} :
    splitOn s [c] = ps ↔ s = join [c] ps ∧ s.count c + 1 = ps.length := by
  have hfree : (∀ p ∈ ps, c ∉ p) ↔ ps.flatten.count c = 0 := by
    rw [List.count_eq_zero, List.mem_flatten]
    exact ⟨fun h ⟨p, hp, hc⟩ => h p hp hc, fun h p hp hc => h ⟨p, hp, hc⟩⟩
  rw [splitOn_byte_eq_iff, hfree]
  constructor
  · rintro ⟨hne, hzero, rfl⟩
    exact ⟨rfl, by rw [count_join hne, hzero, Nat.add_zero]⟩
  · rintro ⟨rfl, hcount⟩
    have hne : ps ≠ [] := by
      rintro rfl
      cases hcount
    rw [count_join hne, Nat.add_eq_left] at hcount
    exact ⟨hne, hcount, rfl⟩

/-- A text is cut at the first place where the byte stands. -/
theorem cut?_byte_eq_some_iff {c : UInt8} {s a r : Text} :
    cut? s [c] = some (a, r) ↔ s = a ++ c :: r ∧ c ∉ a := by
  constructor
  · intro h
    by_cases hc : c ∈ s
    · obtain ⟨x, y, rfl, hx⟩ := List.eq_append_cons_of_mem hc
      rw [cut?_append_byte hx] at h
      cases h
      exact ⟨rfl, hx⟩
    · rw [cut?_of_not_mem hc] at h
      cases h
  · rintro ⟨rfl, ha⟩
    exact cut?_append_byte ha r

/-! ## occurrences -/

/-- The number of places of a text at which another stands. -/
def occurrences (s sep : Text) : Nat := s.tails.countP fun t => startsWith t sep

section Occurrences

variable {sep : Text}

theorem occurrences_cons (b : UInt8) (s : Text) :
    occurrences (b :: s) sep = occurrences s sep + if startsWith (b :: s) sep then 1 else 0 := by
  rw [occurrences, occurrences, List.tails_cons, List.countP_cons]

/-- What stands in the end of a text stands in the text. -/
theorem occurrences_le_append (s r : Text) : occurrences r sep ≤ occurrences (s ++ r) sep := by
  induction s with
  | nil => exact le_rfl
  | cons b s ih =>
    rw [List.cons_append, occurrences_cons]
    omega

variable (hsep : sep ≠ [])
include hsep

theorem occurrences_nil : occurrences [] sep = 0 := by
  obtain ⟨c, rest, rfl⟩ := List.exists_cons_of_ne_nil hsep
  rfl

/-- The separator stands at its own place, and perhaps at others. -/
theorem occurrences_sep_append (r : Text) : occurrences r sep + 1 ≤ occurrences (sep ++ r) sep := by
  obtain ⟨c, rest, rfl⟩ := List.exists_cons_of_ne_nil hsep
  have hstart : startsWith (c :: (rest ++ r)) (c :: rest) = true := startsWith_append (c :: rest) r
  have hle : occurrences r (c :: rest) ≤ occurrences (rest ++ r) (c :: rest) := occurrences_le_append rest r
  rw [List.cons_append, occurrences_cons, if_pos hstart]
  omega

theorem cut?_eq_none_iff {s : Text} : cut? s sep = none ↔ occurrences s sep = 0 := by
  induction s with
  | nil => simp [cut?_nil hsep, occurrences_nil hsep]
  | cons b s ih =>
    rw [cut?_cons, occurrences_cons]
    by_cases hstart : startsWith (b :: s) sep = true
    · simp [hstart]
    · simp [hstart, ih]

theorem cut?_of_once {a r : Text} (h : occurrences (a ++ (sep ++ r)) sep = 1) :
    cut? (a ++ (sep ++ r)) sep = some (a, r) := by
  induction a with
  | nil =>
    obtain ⟨c, rest, rfl⟩ := List.exists_cons_of_ne_nil hsep
    have hstart : startsWith (c :: (rest ++ r)) (c :: rest) = true := startsWith_append (c :: rest) r
    simp [cut?_cons, hstart]
  | cons b a ih =>
    have hbehind := (occurrences_sep_append hsep r).trans (occurrences_le_append a (sep ++ r))
    rw [List.cons_append, occurrences_cons] at h
    have hstart : startsWith (b :: (a ++ (sep ++ r))) sep = false := by
      by_contra hstart
      rw [if_pos (by simpa using hstart)] at h
      omega
    rw [hstart] at h
    rw [List.cons_append, cut?_cons, hstart, ih h]
    rfl

theorem eq_of_cut? {s : Text} : ∀ {a r : Text}, cut? s sep = some (a, r) → s = a ++ (sep ++ r) := by
  induction s with
  | nil =>
    intro a r h
    rw [cut?_nil hsep] at h
    cases h
  | cons b s ih =>
    intro a r h
    rw [cut?_cons] at h
    split at h
    · next hstart =>
      cases h
      exact (List.prefix_iff_eq_append.1 (startsWith_iff.1 hstart)).symm
    · obtain ⟨⟨a', r'⟩, hcut, heq⟩ := Option.map_eq_some_iff.1 h
      cases heq
      rw [List.cons_append, ← ih hcut]

end Occurrences

section Pairs

variable {c d : UInt8} (hcd : c ≠ d)
include hcd

/-- A pair of different bytes does not overlap itself, so behind a place where it is cut all places are left. -/
theorem occurrences_of_cut? {s : Text} : ∀ {a r : Text}, cut? s [c, d] = some (a, r) →
    occurrences s [c, d] = occurrences r [c, d] + 1 := by
  induction s with
  | nil =>
    intro a r h
    rw [cut?_nil (by simp)] at h
    cases h
  | cons b s ih =>
    intro a r h
    rw [cut?_cons] at h
    rw [occurrences_cons]
    split at h
    · next hstart =>
      cases h
      obtain ⟨rest, hrest⟩ := startsWith_iff.1 hstart
      obtain ⟨rfl, rfl⟩ := List.cons.inj hrest
      have hsecond : startsWith (d :: rest) [c, d] = false := by simp [startsWith, List.isPrefixOf, hcd]
      simp only [List.append_eq, List.cons_append, List.nil_append] at hstart ⊢
      rw [if_pos hstart, occurrences_cons, hsecond]
      simp
    · next hstart =>
      obtain ⟨⟨a', r'⟩, hcut, heq⟩ := Option.map_eq_some_iff.1 h
      cases heq
      rw [ih hcut, if_neg hstart]

/-- **The two pieces at a pair of bytes**: the pair stands at one place of the text, and the pieces are around it. -/
theorem splitOn_pair_eq_iff {s a r : Text} :
    splitOn s [c, d] = [a, r] ↔ s = a ++ ([c, d] ++ r) ∧ occurrences s [c, d] = 1 := by
  have hsep : [c, d] ≠ [] := by simp
  constructor
  · intro h
    rw [splitOn_eq hsep] at h
    split at h
    · cases h
    · next a' r' hcut =>
      -- two pieces: the text is cut once, and what is left is not cut again
      obtain ⟨rfl, hrest⟩ := List.cons.inj h
      rw [splitOn_eq hsep] at hrest
      split at hrest
      · next hnone =>
        obtain ⟨rfl, -⟩ := List.cons.inj hrest
        have hzero := (cut?_eq_none_iff hsep).1 hnone
        exact ⟨eq_of_cut? hsep hcut, by rw [occurrences_of_cut? hcd hcut, hzero]⟩
      · next a'' r'' hcut' =>
        rw [splitOn_eq hsep] at hrest
        split at hrest <;> cases hrest
  · rintro ⟨rfl, honce⟩
    have hcut := cut?_of_once hsep honce
    have hzero : occurrences r [c, d] = 0 := by
      rw [occurrences_of_cut? hcd hcut] at honce
      omega
    rw [splitOn_eq hsep, hcut]
    simp only
    rw [splitOn_eq hsep, (cut?_eq_none_iff hsep).2 hzero]

end Pairs

end CastAudit.Text
