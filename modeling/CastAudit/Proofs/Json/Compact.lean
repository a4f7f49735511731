import CastAudit.Proofs.Json.Printing

/-!
# Reading what was written on one line

A value on one line has no blanks in it, so a field ends at the comma or the brace behind it.

* `fieldsFrom_compact` — the fields of an object are read one after the other;
* `readsAs_compact` — an object on one line is read back, if its values are;
* `parse?_flat` — the text of an object of numbers and texts is read back, with its texts mended.
-/

namespace CastAudit.Json

theorem StartsValue.skipBlanks {text : Text} (h : StartsValue text) (rest : Text) :
    Json.skipBlanks (text ++ rest) = text ++ rest := by
  obtain ⟨b, behind, rfl, hblank, -⟩ := h
  exact skipBlanks_cons hblank _

theorem endsNumber_brace (rest : Text) : EndsNumber (0x7d :: rest) := by
  rintro b ⟨⟩
  decide

/-! ## objects -/

/-- Values on one line are read as others. -/
abbrev FieldsRead (depth : Nat) (fields values : List (Text × Json)) : Prop :=
  List.Forall₂ (fun f g => g.1 = mend f.1 ∧ ReadsAs depth (compact f.2) g.2) fields values

theorem compactFields_cons (name : Text) (item : Json) {rest : List (Text × Json)} (hrest : rest ≠ []) :
    compactFields ((name, item) :: rest) =
      Text.quote :: (quotedBody name ++ 0x3a :: (compact item ++ Text.comma :: compactFields rest)) := by
  obtain ⟨next, rest, rfl⟩ := List.exists_cons_of_ne_nil hrest
  rw [compactFields, quote_eq, List.cons_append]
  simp

theorem skipBlanks_compactFields (f : Text × Json) (fields : List (Text × Json)) (rest : Text) :
    skipBlanks (compactFields (f :: fields) ++ rest) = compactFields (f :: fields) ++ rest := by
  have hstart : StartsValue (compactFields (f :: fields)) := by
    cases fields with
    | nil => exact ⟨Text.quote, _, by rw [compactFields, quote_eq, List.cons_append], by decide, by decide⟩
    | cons next fields => exact ⟨Text.quote, _, compactFields_cons f.1 f.2 (by simp), by decide, by decide⟩
  exact hstart.skipBlanks rest

/-- **The fields of an object** are read one after the other. -/
theorem fieldsFrom_compact {depth : Nat} {f g : Text × Json} {fields values : List (Text × Json)}
    (h : FieldsRead depth (f :: fields) (g :: values)) :
    ∀ (fuel : Nat) (seen : List (Text × Json)) (rest : Text), (compactFields (f :: fields)).length ≤ fuel →
      fieldsFrom fuel depth seen (compactFields (f :: fields) ++ rest) =
        some (object (seen.reverse ++ g :: values), rest) := by
  -- each call takes a byte at least, so the length of the text is fuel enough
  induction fields generalizing f g values with
  | nil =>
    intro fuel seen rest hfuel
    obtain ⟨name, item⟩ := f
    obtain ⟨name', value⟩ := g
    obtain ⟨⟨rfl, hitem⟩, hnil⟩ := List.forall₂_cons.1 h
    obtain rfl := List.forall₂_nil_left_iff.1 hnil
    replace hitem : ReadsAs depth (compact item) value := hitem
    simp only [compactFields, quote_eq, List.cons_append, List.length_cons, List.length_append] at hfuel
    obtain ⟨fuel, rfl⟩ := Nat.exists_eq_add_of_le' (Nat.le_trans (by omega) hfuel : 1 ≤ fuel)
    rw [fieldsFrom.eq_def, compactFields, quote_eq]
    simp only [List.cons_append, List.append_assoc, string?_quotedBody,
      skipBlanks_cons (by decide : isBlank 0x3a = false), hitem.starts.skipBlanks]
    rw [hitem.reads fuel _ (by omega) (endsNumber_brace _)]
    simp [skipBlanks_cons (by decide : isBlank 0x7d = false)]
  | cons next fields ih =>
    intro fuel seen rest hfuel
    obtain ⟨name, item⟩ := f
    obtain ⟨name', value⟩ := g
    obtain ⟨⟨rfl, hitem⟩, hrest⟩ := List.forall₂_cons.1 h
    obtain ⟨nextValue, values, hnext, hvalues, rfl⟩ := List.forall₂_cons_left_iff.1 hrest
    replace hitem : ReadsAs depth (compact item) value := hitem
    have htext := compactFields_cons name item (List.cons_ne_nil next fields)
    simp only [htext, List.length_cons, List.length_append] at hfuel
    obtain ⟨fuel, rfl⟩ := Nat.exists_eq_add_of_le' (Nat.le_trans (by omega) hfuel : 1 ≤ fuel)
    rw [fieldsFrom.eq_def, htext]
    simp only [List.cons_append, List.append_assoc, string?_quotedBody,
      skipBlanks_cons (by decide : isBlank 0x3a = false), hitem.starts.skipBlanks]
    rw [hitem.reads fuel _ (by omega) (endsNumber_comma _)]
    simp only [skipBlanks_cons (by decide : isBlank Text.comma = false), skipBlanks_compactFields]
    rw [ih hrest fuel _ rest (by omega)]
    simp

/-- **An object on one line is read back**, with its names mended, if its values are. -/
theorem readsAs_compact {depth : Nat} {fields values : List (Text × Json)} (h : FieldsRead depth fields values) :
    ReadsAs (depth + 1) (compact (object fields)) (object values) := by
  rw [compact]
  refine ⟨⟨_, _, rfl, by decide, by decide⟩, fun fuel rest hfuel _ => ?_⟩
  obtain ⟨fuel, rfl⟩ := Nat.exists_eq_add_of_le' (Nat.le_trans (by simp) hfuel : 1 ≤ fuel)
  simp only [List.length_cons, Nat.add_le_add_iff_right] at hfuel
  cases h with
  | nil =>
    rw [compactFields, valueFrom.eq_def]
    simp only [List.cons_append, List.nil_append, skipBlanks_cons (by decide : isBlank 0x7d = false)]
    rfl
  | @cons f g fields values hf hfields =>
    have hskip := skipBlanks_compactFields f fields rest
    have hopen : (skipBlanks (compactFields (f :: fields) ++ rest)).head? ≠ some 0x7d := by
      rw [hskip]
      cases fields with
      | nil => simp [compactFields, quote_eq, Text.quote]
      | cons next fields => simp [compactFields_cons f.1 f.2 (List.cons_ne_nil next fields), Text.quote]
    rw [List.cons_append, valueFrom_fields hopen, hskip, fieldsFrom_compact (.cons hf hfields) fuel [] rest hfuel]
    rfl

/-- A number or a text is written as it is over several lines. -/
theorem compact_flat {value : Json} (h : IsFlat value) : compact value = indented 0 value := by
  rcases h with ⟨i, rfl⟩ | ⟨s, rfl⟩
  · rw [ofInt, compact, indented]
  · rw [compact, indented]

/-- **The text of an object of numbers and texts** is read back, with its texts mended. -/
theorem parse?_flat {fields : List (Text × Json)} (h : ∀ f ∈ fields, IsFlat f.2) :
    parse? (compact (object fields)) = some (object (fields.map fieldRead)) := by
  have hfields : FieldsRead 9999 fields (fields.map fieldRead) := by
    refine List.forall₂_map_right_iff.2 (List.forall₂_same.2 fun f hf => ?_)
    rw [compact_flat (h f hf)]
    exact readsAs_fieldRead (h f hf) 9999 0
  have hfirst : first? (compact (object fields) ++ []) = some (object (fields.map fieldRead), []) :=
    first?_of_readsAs (readsAs_compact hfields) nofun
  rw [List.append_nil] at hfirst
  simp [parse?, hfirst]

end CastAudit.Json
