import CastAudit.Proofs.Json.Strings
import CastAudit.Proofs.Text.Numbers
import Mathlib.Data.List.Forall2

/-!
# Reading what was printed

A value that is printed over several lines is read back from its text. Indentation is passed over, a number ends before
the comma or the line end that follows it, and brackets are closed in the order in which they were opened.

* `number?_ofInt` — integers are read back;
* `ReadsAs depth text value` — a text is read as a value with so many brackets still to be opened, whatever follows it;
* `readsAs_array`, `readsAs_object` — that, for lists and objects, from what holds of the parts;
* `IsFlat`, `readsAs_flat` — an object of numbers and texts;
* `first?_of_readsAs` — the reader of whole texts.
-/

namespace CastAudit

/-! ## numbers -/

namespace Text

/-- No decimal form but that of zero starts with a zero. -/
theorem head?_digitsFrom {fuel n : Nat} (h : n < fuel) (hn : n ≠ 0) : ∀ acc : Text,
    (digitsFrom fuel n acc).head? ≠ some 0x30 := by
  induction fuel generalizing n with
  | zero => exact absurd h (by omega)
  | succ fuel ih =>
    intro acc
    rw [digitsFrom_succ]
    split
    · next hten =>
      have hbyte := toNat_digitByte (Nat.mod_lt n (by decide : 10 > 0))
      rw [List.head?_cons, ne_eq, Option.some.injEq]
      intro heq
      rw [heq] at hbyte
      have : (0x30 : UInt8).toNat = 0x30 := rfl
      omega
    · exact ih (by omega) (by omega) _

end Text

namespace Json

/-- The text does not go on with a number that stands before it. -/
def EndsNumber (rest : Text) : Prop :=
  ∀ b ∈ rest.head?, Text.isDigit b = false ∧ b ≠ 0x2e ∧ b ≠ 0x65 ∧ b ≠ 0x45

theorem digits?_append {digits rest : Text} (hne : digits ≠ []) (hall : ∀ b ∈ digits, Text.isDigit b = true)
    (hrest : EndsNumber rest) : digits? (digits ++ rest) = some (digits, rest) := by
  have htake : (digits ++ rest).takeWhile Text.isDigit = digits := by
    rw [List.takeWhile_append_of_pos hall]
    cases rest with
    | nil => simp
    | cons b rest => simp [(hrest b rfl).1]
  have hdrop : (digits ++ rest).dropWhile Text.isDigit = rest := by
    rw [List.dropWhile_append_of_pos hall]
    cases rest with
    | nil => simp
    | cons b rest => simp [(hrest b rfl).1]
  have hempty : digits.isEmpty = false := by simpa using hne
  simp [digits?, htake, hdrop, hempty]

theorem whole?_ofNat (n : Nat) {rest : Text} (hrest : EndsNumber rest) :
    whole? (Text.ofNat n ++ rest) = some (Text.ofNat n, rest) := by
  by_cases hn : n = 0
  · subst hn
    rfl
  · have hdigits := Text.ofNat_digits n
    have hhead : (Text.ofNat n ++ rest).head? ≠ some 0x30 := by
      rw [List.head?_append_of_ne_nil _ hdigits.1]
      exact Text.head?_digitsFrom (Nat.lt_succ_self n) hn []
    rw [whole?.eq_def]
    split
    · next heq => exact absurd (by rw [heq]; rfl) hhead
    · exact digits?_append hdigits.1 hdigits.2 hrest

theorem fraction?_of_endsNumber {rest : Text} (h : EndsNumber rest) : fraction? rest = some ([], rest) := by
  rw [fraction?.eq_def]
  split
  · exact absurd rfl (h _ rfl).2.1
  · rfl

theorem exponent?_of_endsNumber {rest : Text} (h : EndsNumber rest) : exponent? rest = some ([], rest) := by
  cases rest with
  | nil => rfl
  | cons b rest =>
    obtain ⟨-, -, hsmall, hlarge⟩ := h b rfl
    simp [exponent?, hsmall, hlarge]

/-- **An integer is read back** from its decimal form. -/
theorem number?_ofInt (i : Int) {rest : Text} (hrest : EndsNumber rest) :
    number? (Text.ofInt i ++ rest) = some (Text.ofInt i, rest) := by
  have hwhole := whole?_ofNat i.natAbs hrest
  unfold Text.ofInt
  split
  · simp [number?, hwhole, fraction?_of_endsNumber hrest, exponent?_of_endsNumber hrest]
  · have hdigits := Text.ofNat_digits i.natAbs
    have hhead : ((Text.ofNat i.natAbs ++ rest).head? == some Text.dash) = false := by
      rw [List.head?_append_of_ne_nil _ hdigits.1, beq_eq_false_iff_ne]
      intro heq
      exact Text.ne_of_isDigit (hdigits.2 _ (List.mem_of_head? heq)) (by decide) rfl
    simp only [number?, hhead, Bool.false_eq_true, if_false, List.length_nil, List.drop_zero, hwhole]
    simp [fraction?_of_endsNumber hrest, exponent?_of_endsNumber hrest]

/-! ## blanks -/

theorem skipBlanks_cons {b : UInt8} (hb : isBlank b = false) (rest : Text) : skipBlanks (b :: rest) = b :: rest := by
  simp [skipBlanks, hb]

theorem skipBlanks_newLine (level : Nat) {b : UInt8} (hb : isBlank b = false) (rest : Text) :
    skipBlanks (newLine level ++ b :: rest) = b :: rest := by
  have hall : ∀ c ∈ newLine level, isBlank c = true := by
    intro c hc
    rcases List.mem_cons.1 hc with rfl | hc
    · rfl
    · rw [List.eq_of_mem_replicate hc]
      rfl
  rw [skipBlanks, List.dropWhile_append_of_pos hall]
  exact skipBlanks_cons hb rest

theorem length_newLine (level : Nat) : (newLine level).length = 2 * level + 1 := by
  simp [newLine]

theorem endsNumber_newLine (level : Nat) (rest : Text) : EndsNumber (newLine level ++ rest) := by
  rintro b ⟨⟩
  decide

theorem endsNumber_comma (rest : Text) : EndsNumber (Text.comma :: rest) := by
  rintro b ⟨⟩
  decide

/-! ## values -/

/-- The text starts with a byte that is neither blank nor the end of a list. -/
def StartsValue (text : Text) : Prop := ∃ b rest, text = b :: rest ∧ isBlank b = false ∧ b ≠ 0x5d

theorem StartsValue.skipBlanks_newLine {text : Text} (h : StartsValue text) (level : Nat) (rest : Text) :
    skipBlanks (newLine level ++ (text ++ rest)) = text ++ rest := by
  obtain ⟨b, behind, rfl, hblank, -⟩ := h
  exact Json.skipBlanks_newLine level hblank _

/-- The text is read as a value, whatever follows it, if `depth` brackets may still be opened. -/
structure ReadsAs (depth : Nat) (text : Text) (value : Json) : Prop where
  starts : StartsValue text
  reads : ∀ fuel rest, text.length ≤ fuel → EndsNumber rest → valueFrom fuel depth (text ++ rest) = some (value, rest)

theorem readsAs_ofInt (depth level : Nat) (i : Int) : ReadsAs depth (indented level (ofInt i)) (ofInt i) := by
  have htext : indented level (ofInt i) = Text.ofInt i := by rw [ofInt, indented]
  rw [htext]
  obtain ⟨b, digits, hcons⟩ : ∃ b digits, Text.ofInt i = b :: digits := by
    refine List.exists_cons_of_ne_nil fun hnil => ?_
    have hsign := Text.signOf_ofInt i
    rw [hnil] at hsign
    exact (Text.ofNat_digits i.natAbs).1 (Prod.mk.inj hsign).2.symm
  -- a byte that is neither a digit nor the sign does not stand in front
  have hother {c : UInt8} (hc : Text.isDigit c = false ∧ c ≠ Text.dash) : b ≠ c := by
    rintro rfl
    exact Text.not_mem_ofInt hc.1 hc.2 i (by simp [hcons])
  have hblank : isBlank b = false := by
    rw [← Bool.not_eq_true]
    intro hblank
    simp only [isBlank, Text.isLineBlank, Bool.or_eq_true, decide_eq_true_eq] at hblank
    rcases hblank with ((hb | hb) | hb) | hb <;> exact hother (by decide) hb
  refine ⟨⟨b, digits, hcons, hblank, hother (by decide)⟩, fun fuel rest hfuel hrest => ?_⟩
  obtain ⟨fuel, rfl⟩ := Nat.exists_eq_add_of_le' (Nat.le_trans (by simp [hcons]) hfuel : 1 ≤ fuel)
  have hnumber := number?_ofInt i hrest
  rw [hcons, List.cons_append] at hnumber ⊢
  rw [valueFrom.eq_def]
  have hquote : b ≠ Text.quote := hother (by decide)
  have harray : b ≠ 0x5b := hother (by decide)
  have hobject : b ≠ 0x7b := hother (by decide)
  have htrue : b ≠ 0x74 := hother (by decide)
  have hfalse : b ≠ 0x66 := hother (by decide)
  have hnull : b ≠ 0x6e := hother (by decide)
  simp only [hquote, harray, hobject, htrue, hfalse, hnull, if_false, hnumber, Option.map_some, ofInt, hcons]

theorem readsAs_string (depth level : Nat) (s : Text) :
    ReadsAs depth (indented level (string s)) (string (mend s)) := by
  have htext : indented level (string s) = Text.quote :: quotedBody s := by rw [indented, quote_eq]
  rw [htext]
  refine ⟨⟨_, _, rfl, by decide, by decide⟩, fun fuel rest hfuel _ => ?_⟩
  obtain ⟨fuel, rfl⟩ := Nat.exists_eq_add_of_le' (Nat.le_trans (by simp) hfuel : 1 ≤ fuel)
  simp [valueFrom, string?_quotedBody]

/-! ## lists -/

/-- The items of a list are read one after the other. -/
theorem itemsFrom_indented {depth level outer : Nat} {items values : List Json}
    (h : List.Forall₂ (fun v w => ReadsAs depth (indented level v) w) items values) :
    ∀ {item value : Json}, ReadsAs depth (indented level item) value → ∀ (fuel : Nat) (seen : List Json) (rest : Text),
      (indented level item).length + (indentedItems level items).length + 1 ≤ fuel →
      itemsFrom fuel depth seen
          (indented level item ++ (indentedItems level items ++ (newLine outer ++ 0x5d :: rest))) =
        some (array (seen.reverse ++ value :: values), rest) := by
  -- each call takes a byte at least, so the length of the text is fuel enough
  induction h with
  | nil =>
    intro item value hitem fuel seen rest hfuel
    obtain ⟨fuel, rfl⟩ := Nat.exists_eq_add_of_le' (Nat.le_trans (by omega) hfuel : 1 ≤ fuel)
    rw [itemsFrom.eq_def]
    simp only [indentedItems, List.nil_append]
    rw [hitem.reads fuel _ (by omega) (endsNumber_newLine outer _)]
    simp only [skipBlanks_newLine outer (by decide : isBlank 0x5d = false)]
    simp
  | @cons next nextValue items values hnext hrest ih =>
    intro item value hitem fuel seen rest hfuel
    obtain ⟨fuel, rfl⟩ := Nat.exists_eq_add_of_le' (Nat.le_trans (by omega) hfuel : 1 ≤ fuel)
    rw [itemsFrom.eq_def]
    simp only [indentedItems, List.cons_append, List.append_assoc, List.length_cons, List.length_append,
      length_newLine] at hfuel ⊢
    rw [hitem.reads fuel _ (by omega) (endsNumber_comma _)]
    simp only [skipBlanks_cons (by decide : isBlank Text.comma = false)]
    rw [hnext.starts.skipBlanks_newLine, ih hnext fuel (value :: seen) rest (by omega)]
    simp

/-- A list that does not end at once has items. -/
theorem valueFrom_items {fuel depth : Nat} {text : Text} (h : (skipBlanks text).head? ≠ some 0x5d) :
    valueFrom (fuel + 1) (depth + 1) (0x5b :: text) = itemsFrom fuel depth [] (skipBlanks text) := by
  rw [valueFrom.eq_def]
  have hquote : (0x5b : UInt8) ≠ Text.quote := by decide
  simp only [hquote, if_false, if_true]
  split
  · next heq => exact absurd (by rw [heq]; rfl) h
  · rfl

/-- An object that does not end at once has fields. -/
theorem valueFrom_fields {fuel depth : Nat} {text : Text} (h : (skipBlanks text).head? ≠ some 0x7d) :
    valueFrom (fuel + 1) (depth + 1) (0x7b :: text) = fieldsFrom fuel depth [] (skipBlanks text) := by
  rw [valueFrom.eq_def]
  have hquote : (0x7b : UInt8) ≠ Text.quote := by decide
  have hlist : (0x7b : UInt8) ≠ 0x5b := by decide
  simp only [hquote, hlist, if_false, if_true]
  split
  · next heq => exact absurd (by rw [heq]; rfl) h
  · rfl

/-- **A list is read back** from its lines, if its items are. -/
theorem readsAs_array {depth level : Nat} {items values : List Json}
    (h : List.Forall₂ (fun v w => ReadsAs depth (indented (level + 1) v) w) items values) :
    ReadsAs (depth + 1) (indented level (array items)) (array values) := by
  cases h with
  | nil =>
    have htext : indented level (array []) = [0x5b, 0x5d] := by rw [indented]
    rw [htext]
    refine ⟨⟨_, _, rfl, by decide, by decide⟩, fun fuel rest hfuel _ => ?_⟩
    obtain ⟨fuel, rfl⟩ := Nat.exists_eq_add_of_le' (Nat.le_trans (by simp) hfuel : 1 ≤ fuel)
    rw [valueFrom.eq_def]
    simp only [List.cons_append, List.nil_append, skipBlanks_cons (by decide : isBlank 0x5d = false)]
    rfl
  | @cons item value items values hitem hitems =>
    have htext : indented level (array (item :: items)) =
        0x5b :: (newLine (level + 1) ++ (indented (level + 1) item ++ (indentedItems (level + 1) items ++
          (newLine level ++ [0x5d])))) := by
      rw [indented]
      simp
    rw [htext]
    refine ⟨⟨_, _, rfl, by decide, by decide⟩, fun fuel rest hfuel _ => ?_⟩
    obtain ⟨fuel, rfl⟩ := Nat.exists_eq_add_of_le' (Nat.le_trans (by simp) hfuel : 1 ≤ fuel)
    simp only [List.length_cons, List.length_append, length_newLine, List.length_nil] at hfuel
    rw [List.cons_append, List.append_assoc, List.append_assoc, List.append_assoc, List.append_assoc,
      List.singleton_append]
    have hskip := hitem.starts.skipBlanks_newLine (level + 1)
      (indentedItems (level + 1) items ++ (newLine level ++ 0x5d :: rest))
    have hopen : (skipBlanks (newLine (level + 1) ++ (indented (level + 1) item ++ (indentedItems (level + 1) items ++
        (newLine level ++ 0x5d :: rest))))).head? ≠ some 0x5d := by
      rw [hskip]
      obtain ⟨b, behind, hstart, -, hclose⟩ := hitem.starts
      simpa [hstart] using hclose
    rw [valueFrom_items hopen, hskip, itemsFrom_indented hitems hitem fuel [] rest (by omega)]
    rfl

/-! ## objects -/

/-- The fields of an object are read one after the other. -/
theorem fieldsFrom_indented {depth level outer : Nat} {fields values : List (Text × Json)}
    (h : List.Forall₂ (fun f g => g.1 = mend f.1 ∧ ReadsAs depth (indented level f.2) g.2) fields values) :
    ∀ (name : Text) {item value : Json}, ReadsAs depth (indented level item) value →
      ∀ (fuel : Nat) (seen : List (Text × Json)) (rest : Text),
      (indented level item).length + (indentedFields level fields).length + 1 ≤ fuel →
      fieldsFrom fuel depth seen (quote name ++ ([0x3a, Text.space] ++ (indented level item ++
          (indentedFields level fields ++ (newLine outer ++ 0x7d :: rest))))) =
        some (object (seen.reverse ++ (mend name, value) :: values), rest) := by
  have hspace {text : Text} (hstart : StartsValue text) (behind : Text) :
      skipBlanks (Text.space :: (text ++ behind)) = text ++ behind := by
    obtain ⟨b, inside, rfl, hblank, -⟩ := hstart
    rw [skipBlanks, List.dropWhile_cons_of_pos (by decide)]
    exact skipBlanks_cons hblank _
  -- on the fields behind the one that is read; the fuel covers all that stands before the closing brace
  induction h with
  | nil =>
    intro name item value hitem fuel seen rest hfuel
    obtain ⟨fuel, rfl⟩ := Nat.exists_eq_add_of_le' (Nat.le_trans (by omega) hfuel : 1 ≤ fuel)
    rw [fieldsFrom.eq_def, quote_eq]
    simp only [indentedFields, List.nil_append, List.cons_append, string?_quotedBody,
      skipBlanks_cons (by decide : isBlank 0x3a = false), hspace hitem.starts]
    rw [hitem.reads fuel _ (by omega) (endsNumber_newLine outer _)]
    simp only [skipBlanks_newLine outer (by decide : isBlank 0x7d = false)]
    simp
  | @cons next nextValue fields values hnext hrest ih =>
    intro name item value hitem fuel seen rest hfuel
    obtain ⟨fuel, rfl⟩ := Nat.exists_eq_add_of_le' (Nat.le_trans (by omega) hfuel : 1 ≤ fuel)
    obtain ⟨nextName, next⟩ := next
    obtain ⟨nextName', nextValue⟩ := nextValue
    obtain ⟨rfl, hnext⟩ := hnext
    replace hnext : ReadsAs depth (indented level next) nextValue := hnext
    rw [fieldsFrom.eq_def, quote_eq]
    simp only [indentedFields, List.cons_append, List.append_assoc, List.length_cons, List.length_append,
      length_newLine] at hfuel ⊢
    simp only [List.nil_append, string?_quotedBody, skipBlanks_cons (by decide : isBlank 0x3a = false),
      hspace hitem.starts]
    rw [hitem.reads fuel _ (by omega) (endsNumber_comma _)]
    have hskip (behind : Text) : skipBlanks (newLine level ++ (quote nextName ++ behind)) = quote nextName ++ behind :=
      skipBlanks_newLine level (by decide) _
    simp only [skipBlanks_cons (by decide : isBlank Text.comma = false), hskip]
    have hread := ih nextName hnext fuel ((mend name, value) :: seen) rest (by omega)
    simp only [List.cons_append, List.nil_append] at hread
    rw [hread]
    simp

/-- **An object is read back** from its lines, with its names mended, if its values are. -/
theorem readsAs_object {depth level : Nat} {fields values : List (Text × Json)}
    (h : List.Forall₂ (fun f g => g.1 = mend f.1 ∧ ReadsAs depth (indented (level + 1) f.2) g.2) fields values) :
    ReadsAs (depth + 1) (indented level (object fields)) (object values) := by
  cases h with
  | nil =>
    have htext : indented level (object []) = [0x7b, 0x7d] := by rw [indented]
    rw [htext]
    refine ⟨⟨_, _, rfl, by decide, by decide⟩, fun fuel rest hfuel _ => ?_⟩
    obtain ⟨fuel, rfl⟩ := Nat.exists_eq_add_of_le' (Nat.le_trans (by simp) hfuel : 1 ≤ fuel)
    rw [valueFrom.eq_def]
    simp only [List.cons_append, List.nil_append, skipBlanks_cons (by decide : isBlank 0x7d = false)]
    rfl
  | @cons first firstValue fields values hfirst hfields =>
    obtain ⟨name, item⟩ := first
    obtain ⟨name', value⟩ := firstValue
    obtain ⟨rfl, hitem⟩ := hfirst
    replace hitem : ReadsAs depth (indented (level + 1) item) value := hitem
    have htext : indented level (object ((name, item) :: fields)) =
        0x7b :: (newLine (level + 1) ++ (quote name ++ ([0x3a, Text.space] ++ (indented (level + 1) item ++
          (indentedFields (level + 1) fields ++ (newLine level ++ [0x7d])))))) := by
      rw [indented]
      simp
    rw [htext]
    refine ⟨⟨_, _, rfl, by decide, by decide⟩, fun fuel rest hfuel _ => ?_⟩
    obtain ⟨fuel, rfl⟩ := Nat.exists_eq_add_of_le' (Nat.le_trans (by simp) hfuel : 1 ≤ fuel)
    simp only [List.length_cons, List.length_append, length_newLine, List.length_nil] at hfuel
    simp only [List.append_assoc, List.cons_append, List.nil_append]
    have hskip (behind : Text) :
        skipBlanks (newLine (level + 1) ++ (quote name ++ behind)) = quote name ++ behind :=
      skipBlanks_newLine (level + 1) (by decide) _
    have hopen (behind : Text) : (skipBlanks (newLine (level + 1) ++ (quote name ++ behind))).head? ≠ some 0x7d := by
      rw [hskip, quote_eq]
      simp [Text.quote]
    rw [valueFrom_fields (hopen _), hskip]
    exact fieldsFrom_indented hfields name hitem fuel [] rest (by omega)

/-- A number or a text. -/
def IsFlat (value : Json) : Prop := (∃ i, value = .ofInt i) ∨ ∃ s, value = .string s

/-- What is read of a field: its texts are mended. -/
def fieldRead : Text × Json → Text × Json
  | (name, .string s) => (mend name, .string (mend s))
  | (name, value) => (mend name, value)

/-- A field with a number or a text is read back, with its texts mended. -/
theorem readsAs_fieldRead {f : Text × Json} (h : IsFlat f.2) (depth level : Nat) :
    (fieldRead f).1 = mend f.1 ∧ ReadsAs depth (indented level f.2) (fieldRead f).2 := by
  obtain ⟨name, value⟩ := f
  rcases h with ⟨i, hi⟩ | ⟨s, hs⟩
  · obtain rfl : value = .ofInt i := hi
    exact ⟨rfl, readsAs_ofInt depth _ i⟩
  · obtain rfl : value = .string s := hs
    exact ⟨rfl, readsAs_string depth _ s⟩

/-- An object without lists and objects in it is read back, with its texts mended. -/
theorem readsAs_flat {fields : List (Text × Json)} (h : ∀ f ∈ fields, IsFlat f.2) (depth level : Nat) :
    ReadsAs (depth + 1) (indented level (object fields)) (object (fields.map fieldRead)) :=
  readsAs_object (List.forall₂_map_right_iff.2 (List.forall₂_same.2 fun f hf => readsAs_fieldRead (h f hf) depth _))

/-- **A printed value is the first of its text.** -/
theorem first?_of_readsAs {text rest : Text} {value : Json} (h : ReadsAs maxDepth text value) (hrest : EndsNumber rest) :
    first? (text ++ rest) = some (value, rest) := by
  obtain ⟨b, behind, rfl, hblank, -⟩ := h.starts
  rw [first?, List.cons_append, skipBlanks_cons hblank]
  exact h.reads _ rest (by simp; omega) hrest

end Json

end CastAudit
