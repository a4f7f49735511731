import CastAudit.Header.Fields
import CastAudit.Location
import CastAudit.Proofs.Text.Characters
import CastAudit.Proofs.Text.Lines

/-!
# What a line announces

* `announces_unique` — no line announces two kinds, since no marker starts another one;
* `classify_eq_iff` — the kind of a line is the one that it announces, if that is looked for;
* `clean_dropReturn`, `clean_mark_append` — a trailing carriage return and a byte-order mark in front are cleaned away;
* `classify_congr`, `extract_congr`, `location_congr` — lines that are cleaned to one text are read in one way, as
  headers and below them.
-/

namespace CastAudit.Header

/-! ## clean lines -/

theorem clean_eq (line : Text) :
    clean line = (Text.chopPrefix line byteOrderMark).rdropWhile Text.isLineEnd := rfl

/-- The byte-order mark is at the front of a line whatever byte ends the line, unless that byte is its own
last one. -/
theorem chopPrefix_concat {line : Text} {b : UInt8} (hb : b ≠ 0xbf) :
    Text.chopPrefix (line ++ [b]) byteOrderMark = Text.chopPrefix line byteOrderMark ++ [b] := by
  have hiff : byteOrderMark <+: line ++ [b] ↔ byteOrderMark <+: line := by
    rw [List.prefix_concat_iff]
    refine or_iff_right fun h => hb ?_
    have : (byteOrderMark : List UInt8).getLast? = (line ++ [b]).getLast? := by rw [← h]
    simpa [eq_comm] using this
  by_cases h : byteOrderMark <+: line
  · obtain ⟨rest, rfl⟩ := h
    rw [List.append_assoc, Text.chopPrefix_append, Text.chopPrefix_append]
  · have h₁ : Text.startsWith line byteOrderMark = false := by
      simpa [← Text.startsWith_iff] using h
    have h₂ : Text.startsWith (line ++ [b]) byteOrderMark = false := by
      simpa [← Text.startsWith_iff] using mt hiff.1 h
    rw [Text.chopPrefix_of_not h₁, Text.chopPrefix_of_not h₂]

theorem clean_dropReturn (line : Text) : clean (Lines.dropReturn line) = clean line := by
  rcases List.eq_nil_or_concat line with rfl | ⟨front, b, rfl⟩
  · rfl
  · rw [List.concat_eq_append]
    by_cases hb : b = Text.cr
    · subst hb
      have hdrop : Lines.dropReturn (front ++ [Text.cr]) = front := by simp [Lines.dropReturn]
      rw [hdrop, clean_eq, clean_eq, chopPrefix_concat (by decide), List.rdropWhile_concat_pos _ _ _ (by decide)]
    · have hkeep : Lines.dropReturn (front ++ [b]) = front ++ [b] := by simp [Lines.dropReturn, hb]
      rw [hkeep]

theorem clean_append_cr (line : Text) : clean (line ++ [Text.cr]) = clean line := by
  have hdrop : Lines.dropReturn (line ++ [Text.cr]) = line := by simp [Lines.dropReturn]
  rw [← clean_dropReturn, hdrop]

theorem clean_mark_append {line : Text} (h : ¬ byteOrderMark <+: line) : clean (byteOrderMark ++ line) = clean line := by
  have hstart : Text.startsWith line byteOrderMark = false := by simpa [← Text.startsWith_iff] using h
  rw [clean, clean, Text.chopPrefix_append, Text.chopPrefix_of_not hstart]

section Cleaned

variable {a b : Text} (h : clean a = clean b)
include h

theorem classify_congr (kinds : List Kind) : classify a kinds = classify b kinds := by
  simp only [classify, h]

theorem extract_congr (kind : Kind) : extract a kind = extract b kind := by
  simp only [extract, fieldsOf, h]

theorem location_congr (kind : Kind) : Location.extract a kind = Location.extract b kind := by
  simp only [Location.extract, h]

end Cleaned

/-- A line that does not start with the first byte of the byte-order mark is cleaned at its end only. -/
theorem clean_of_head {b : UInt8} (hb : b ≠ 0xef) (line : Text) :
    clean (b :: line) = Text.dropEnd (b :: line) Text.isLineEnd := by
  have h : Text.startsWith (b :: line) byteOrderMark = false := by
    simp [Text.startsWith, List.isPrefixOf, Ne.symm hb]
  rw [clean, Text.chopPrefix_of_not h]

/-! ## markers -/

theorem marker_prefix_unique : ∀ k ∈ Kind.recognized, ∀ k' ∈ Kind.recognized,
    (k.marker?).getD [] <+: (k'.marker?).getD [] → k = k' := by decide +kernel

theorem mem_recognized_iff {kind : Kind} : kind ∈ Kind.recognized ↔ (kind.marker?).isSome = true := by
  cases kind <;> simp [Kind.recognized, Kind.marker?]

theorem announces_iff {line : Text} {kind : Kind} :
    announces line kind = true ↔ ∃ marker, kind.marker? = some marker ∧ marker <+: line := by
  rw [announces]
  cases kind.marker? <;> simp [Text.startsWith_iff]

theorem announces_unique {line : Text} {k k' : Kind} (h : announces line k = true) (h' : announces line k' = true) :
    k = k' := by
  obtain ⟨m, hm, hp⟩ := announces_iff.1 h
  obtain ⟨m', hm', hp'⟩ := announces_iff.1 h'
  have hk : k ∈ Kind.recognized := mem_recognized_iff.2 (by simp [hm])
  have hk' : k' ∈ Kind.recognized := mem_recognized_iff.2 (by simp [hm'])
  rcases List.prefix_or_prefix_of_prefix hp hp' with hmm | hmm
  · exact marker_prefix_unique k hk k' hk' (by simpa [hm, hm'] using hmm)
  · exact (marker_prefix_unique k' hk' k hk (by simpa [hm, hm'] using hmm)).symm

/-- The kind of a line is the one that it announces, if the line is valid and the kind is looked for. -/
theorem classify_eq_iff {line : Text} {kinds : List Kind} {kind : Kind} (hkind : kind ≠ .none) :
    classify line kinds = kind ↔
      Text.valid (clean line) = true ∧ wanted kinds kind = true ∧ announces (clean line) kind = true := by
  unfold classify
  by_cases hvalid : Text.valid (clean line) = true
  · simp only [hvalid, if_true, true_and]
    cases hfind : Kind.recognized.find? fun k => wanted kinds k && announces (clean line) k with
    | none =>
      simp only [Option.getD_none, Ne.symm hkind, false_iff, not_and]
      intro hw ha
      obtain ⟨m, hm, -⟩ := announces_iff.1 ha
      have := List.find?_eq_none.1 hfind kind (mem_recognized_iff.2 (by simp [hm]))
      simp [hw, ha] at this
    | some k =>
      have hk := List.find?_some hfind
      simp only [Bool.and_eq_true] at hk
      simp only [Option.getD_some]
      refine ⟨fun h => h ▸ hk, fun h => announces_unique hk.2 h.2⟩
  · simp [hvalid, Ne.symm hkind]

end CastAudit.Header
