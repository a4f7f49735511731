import CastAudit.Proofs.Json.Compact
import CastAudit.Proofs.Store.Records
import CastAudit.RecordJson

/-!
# Records in JSON

A record is read back from its JSON text: its fields are filled in their order, and one that is left out keeps its blank.

* `Record.mended` — the record with its texts mended;
* `parse?_encode` — the text of a record holds the fields of its mended record;
* `bind_toJson` — the fields of a record fill in that record, and `bind_toJson_unknown` — unless its kind has no tag of
  a recognized one;
* `decode_encode` — so a record is read back from its text, with its texts mended;
* `decode_encode_exact` — without loss where its texts are valid, and refused where its kind is not recognized.
-/

namespace CastAudit

open Json (mend fieldRead bindField)

/-! ## tags -/

namespace Kind

theorem valid_tag (kind : Kind) : Text.valid kind.tag = true := by
  cases kind with
  | other c =>
    have hascii : ∀ b ∈ (other c).tag, b < 0x80 := by
      have hends : (∀ b ∈ ("kind(" : Text), b < 0x80) ∧ ∀ b ∈ (")" : Text), b < 0x80 := by decide +kernel
      rw [tag, List.forall_mem_append, List.forall_mem_append]
      exact ⟨⟨hends.1, Text.ascii_ofInt c⟩, hends.2⟩
    rw [← List.append_nil (other c).tag, Text.valid_of_ascii_append hascii]
    rfl
  | _ => decide +kernel

/-- No recognized kind has the tag of another one. -/
theorem ofTag?_tag_eq_none {kind : Kind} (h : kind ∉ recognized) : ofTag? kind.tag = Option.none := by
  cases kind with
  | none => decide +kernel
  | other c =>
    have hhead : ∀ k ∈ recognized, k.tag.head? ≠ some 0x6b := by decide +kernel
    rw [ofTag?, List.find?_eq_none]
    intro k hk htag
    refine hhead k hk ?_
    rw [beq_iff_eq.1 htag]
    rfl
  | _ => exact absurd (by simp [recognized]) h

end Kind

namespace Record

/-- The record with its texts mended. -/
def mended (r : Record) : Record where
  kind := r.kind
  packageId := mend r.packageId
  caller := mend r.caller
  fromType := mend r.fromType
  toType := mend r.toType
  mutability := mend r.mutability
  note := mend r.note
  location := mend r.location
  logPath := mend r.logPath
  line := r.line

theorem mended_eq_self {r : Record} (h : ∀ s ∈ r.texts, Text.valid s = true) : r.mended = r := by
  have hsame : ∀ s ∈ r.texts, mend s = s := fun s hs => Json.mend_of_valid (h s hs)
  simp only [texts, List.forall_mem_cons] at hsame
  obtain ⟨hpackage, hcaller, hfrom, hto, hmut, hnote, hlocation, hlog, -⟩ := hsame
  simp only [mended, hpackage, hcaller, hfrom, hto, hmut, hnote, hlocation, hlog]

/-! ## the text -/

section Fields

variable {name : String} (hname : mend name = name)
include hname

theorem fieldRead_textField (s : Text) : fieldRead (Json.textField name s) = Json.textField name (mend s) := by
  rw [Json.textField, fieldRead, hname, Json.textField]

theorem map_fieldRead_filledText (s : Text) :
    (Json.filledText name s).map fieldRead = Json.filledText name (mend s) := by
  cases s with
  | nil => rfl
  | cons b s =>
    have hne : mend (b :: s) ≠ [] := Json.mend_ne_nil (by simp)
    simp [Json.filledText, hne, fieldRead_textField hname]

theorem map_fieldRead_filledInt (i : Int) : (Json.filledInt name i).map fieldRead = Json.filledInt name i := by
  by_cases hi : i = 0
  · simp [Json.filledInt, hi]
  · simp [Json.filledInt, hi, Json.intField, Json.ofInt, fieldRead, hname]

end Fields

theorem map_fieldRead_jsonFields (r : Record) : r.jsonFields.map fieldRead = r.mended.jsonFields := by
  have hnames : ∀ name ∈ ["kind", "package_id", "caller", "from_type", "to_type", "mutability", "note",
      "source_location", "log_path", "line"], mend (Text.ofString name) = name := by decide +kernel
  simp only [List.forall_mem_cons] at hnames
  obtain ⟨hkind, hpackage, hcaller, hfrom, hto, hmut, hnote, hlocation, hlog, hline, -⟩ := hnames
  simp only [jsonFields, List.map_append, List.map_cons, List.map_nil, fieldRead_textField hkind,
    fieldRead_textField hpackage, fieldRead_textField hcaller, fieldRead_textField hlocation,
    map_fieldRead_filledText hfrom, map_fieldRead_filledText hto, map_fieldRead_filledText hmut,
    map_fieldRead_filledText hnote, map_fieldRead_filledText hlog, map_fieldRead_filledInt hline, mended,
    Json.mend_of_valid r.kind.valid_tag]

theorem isFlat_textField (name : String) (s : Text) : (Json.textField name s).2.IsFlat := .inr ⟨s, rfl⟩

theorem isFlat_of_mem_filledText {name : String} {s : Text} : ∀ f ∈ Json.filledText name s, f.2.IsFlat := by
  unfold Json.filledText
  split
  · nofun
  · exact List.forall_mem_singleton.2 (isFlat_textField name s)

theorem isFlat_of_mem_filledInt {name : String} {i : Int} : ∀ f ∈ Json.filledInt name i, f.2.IsFlat := by
  unfold Json.filledInt
  split
  · nofun
  · exact List.forall_mem_singleton.2 (.inl ⟨i, rfl⟩)

theorem isFlat_of_mem_jsonFields {r : Record} : ∀ f ∈ r.jsonFields, f.2.IsFlat := by
  simp only [jsonFields, List.forall_mem_append, List.forall_mem_cons, and_assoc]
  exact ⟨isFlat_textField .., isFlat_textField .., isFlat_textField .., nofun, isFlat_of_mem_filledText,
    isFlat_of_mem_filledText, isFlat_of_mem_filledText, isFlat_of_mem_filledText, isFlat_textField .., nofun,
    isFlat_of_mem_filledText, isFlat_of_mem_filledInt⟩

/-- **The text of a record** holds the fields of its mended record. -/
theorem parse?_encode (r : Record) : Json.parse? r.encode = some r.mended.toJson := by
  rw [encode, toJson, Json.parse?_flat isFlat_of_mem_jsonFields, map_fieldRead_jsonFields, toJson]

/-! ## the record -/

/-- Some fields take one record to another. -/
def Fills (r : Record) (fields : List (Text × Json)) (r' : Record) : Prop :=
  fields.foldlM (bindField binders .malformed) (r, true) = .ok (r', true)

theorem Fills.append {r r' r'' : Record} {fields fields' : List (Text × Json)} (h : Fills r fields r')
    (h' : Fills r' fields' r'') : Fills r (fields ++ fields') r'' := by
  unfold Fills at h h' ⊢
  rw [List.foldlM_append, h]
  exact h'

theorem Fills.cons {r r' r'' : Record} {f : Text × Json} {fields : List (Text × Json)} (h : Fills r [f] r')
    (h' : Fills r' fields r'') : Fills r (f :: fields) r'' := h.append h'

section Fields

variable (name : String) {r : Record}

theorem fills_textField (set : Record → Text → Record)
    (hbinder : Json.binderOf? binders name = some (Json.textBinder name set)) (s : Text) :
    Fills r [Json.textField name s] (set r s) := by
  have hfield : bindField binders .malformed (r, true) (Json.textField name s) = .ok (set r s, true) := by
    simp only [bindField, Json.textField, hbinder, Json.textBinder]
  rw [Fills, List.foldlM_cons, hfield]
  rfl

/-- A text that is left out keeps the blank that it would set. -/
theorem fills_filledText (set : Record → Text → Record)
    (hbinder : Json.binderOf? binders name = some (Json.textBinder name set)) (hblank : set r [] = r) (s : Text) :
    Fills r (Json.filledText name s) (set r s) := by
  cases s with
  | nil =>
    rw [hblank]
    rfl
  | cons b s => exact fills_textField name set hbinder (b :: s)

/-- A number that is left out keeps the zero that it would set. -/
theorem fills_filledInt (set : Record → Int → Record)
    (hbinder : Json.binderOf? binders name = some (Json.intBinder name set)) (hblank : set r 0 = r) {i : Int}
    (hmin : Text.minInt64 ≤ i) (hmax : i ≤ Text.maxInt64) : Fills r (Json.filledInt name i) (set r i) := by
  by_cases hi : i = 0
  · rw [Json.filledInt, if_pos hi, hi, hblank]
    rfl
  · have hfield : bindField binders .malformed (r, true) (Json.intField name i) = .ok (set r i, true) := by
      simp only [bindField, Json.intField, Json.ofInt, hbinder, Json.intBinder, Text.readInt64_ofInt hmin hmax]
    rw [Fills, Json.filledInt, if_neg hi, List.foldlM_cons, hfield]
    rfl

theorem bindField_kind (r : Record) (tag : Text) :
    bindField binders .malformed (r, true) (Json.textField "kind" tag) =
      match Kind.ofTag? tag with
      | some kind => .ok ({ r with kind }, true)
      | none => .error (.unknownKind tag) := by
  have hbinder : Json.binderOf? binders "kind" = some kindBinder := by rfl
  simp only [bindField, Json.textField, hbinder, kindBinder]
  cases Kind.ofTag? tag <;> rfl

theorem fills_kind {kind : Kind} (h : kind ∈ Kind.recognized) :
    Fills r [Json.textField "kind" kind.tag] { r with kind } := by
  rw [Fills, List.foldlM_cons, bindField_kind, Kind.ofTag?_tag h]
  rfl

end Fields

/-- The fields of a storable record fill in that record, one after the other. -/
theorem fills_jsonFields {r : Record} (h : r.Storable) : Fills {} r.jsonFields r := by
  have hhead : Fills {} [Json.textField "kind" r.kind.tag, Json.textField "package_id" r.packageId,
      Json.textField "caller" r.caller] { kind := r.kind, packageId := r.packageId, caller := r.caller } :=
    (fills_kind h.kind).cons ((fills_textField "package_id" (fun r t => { r with packageId := t }) rfl r.packageId).cons
      (fills_textField "caller" (fun r t => { r with caller := t }) rfl r.caller))
  have hfrom := hhead.append (fills_filledText "from_type" (fun r t => { r with fromType := t }) rfl rfl r.fromType)
  have hto := hfrom.append (fills_filledText "to_type" (fun r t => { r with toType := t }) rfl rfl r.toType)
  have hmut := hto.append (fills_filledText "mutability" (fun r t => { r with mutability := t }) rfl rfl r.mutability)
  have hnote := hmut.append (fills_filledText "note" (fun r t => { r with note := t }) rfl rfl r.note)
  have hplace := hnote.append (fills_textField "source_location" (fun r t => { r with location := t }) rfl r.location)
  have hlog := hplace.append (fills_filledText "log_path" (fun r t => { r with logPath := t }) rfl rfl r.logPath)
  exact hlog.append (fills_filledInt "line" (fun r n => { r with line := n }) rfl rfl h.line.1 h.line.2)

/-- **The fields of a storable record fill in that record.** -/
theorem bind_toJson {r : Record} (h : r.Storable) : Json.bind binders .malformed {} r.toJson = .ok r := by
  have hfills := fills_jsonFields h
  unfold Fills at hfills
  rw [toJson, Json.bind, hfills]
  rfl

/-- The kind comes first, and one without a recognized tag ends the reading. -/
theorem bind_toJson_unknown {r : Record} (h : r.kind ∉ Kind.recognized) :
    Json.bind binders .malformed {} r.toJson = .error (.unknownKind r.kind.tag) := by
  have hkind := bindField_kind {} r.kind.tag
  rw [Kind.ofTag?_tag_eq_none h] at hkind
  have hfold : r.jsonFields.foldlM (bindField binders .malformed) ({}, true) = .error (.unknownKind r.kind.tag) := by
    simp only [jsonFields, List.cons_append, List.foldlM_cons, hkind]
    rfl
  rw [toJson, Json.bind, hfold]
  rfl

/-- **A storable record is read back from its text**, with its texts mended. -/
theorem decode_encode {r : Record} (h : r.Storable) : decode r.encode = .ok r.mended := by
  have hmended : r.mended.Storable := ⟨h.kind, h.line⟩
  rw [decode, parse?_encode]
  exact bind_toJson hmended

/-- **The text of a record of another kind is refused**, and the report names its tag. -/
theorem decode_encode_unknown {r : Record} (h : r.kind ∉ Kind.recognized) :
    decode r.encode = .error (.unknownKind r.kind.tag) := by
  have hmended : r.mended.kind ∉ Kind.recognized := h
  rw [decode, parse?_encode]
  exact bind_toJson_unknown hmended

/-- **The JSON form of a record is lossless**: a storable record with valid texts is read back from its text as it was,
and the text of a record whose kind no log can announce is refused as one of an unknown kind. -/
theorem decode_encode_exact (r : Record) :
    (r.Storable → (∀ s ∈ r.texts, Text.valid s = true) → decode r.encode = .ok r) ∧
      (r.kind ∉ Kind.recognized → ∃ e fault, decode r.encode = .error e ∧ e.fault? = some fault ∧
        fault.message = "unknown diagnostic kind " ++ Text.quoted r.kind.tag) := by
  refine ⟨fun hstorable hvalid => ?_, fun hkind => ?_⟩
  · rw [decode_encode hstorable, mended_eq_self hvalid]
  · exact ⟨_, _, decode_encode_unknown hkind, rfl, rfl⟩

/-- A finding whose texts hold what is escaped: quotes, control characters, marks of other languages and characters of
every length. -/
def escapedFinding : Record where
  kind := .brokenLayout
  packageId := "a\"b-1.0.0"
  caller := "f\\g\n\t\x00\x1f\x7f"
  note := "</script>&\u2028\u2029\ufffd"
  location := "src/λ/😀.rs:1:2"
  line := Text.minInt64

theorem decode_encode_exact_escaped :
    Record.decode escapedFinding.encode = .ok escapedFinding ∧
      ∃ e fault, Record.decode ({ escapedFinding with kind := .other 9 } : Record).encode = .error e ∧
        e.fault? = some fault ∧ fault.message = "unknown diagnostic kind \"kind(9)\"" := by
  have hstorable : escapedFinding.Storable := ⟨by simp [escapedFinding, Kind.recognized], by decide⟩
  have hvalid : ∀ s ∈ escapedFinding.texts, Text.valid s = true := by decide +kernel
  have hmessage : "unknown diagnostic kind " ++ Text.quoted (Kind.other 9).tag =
      ("unknown diagnostic kind \"kind(9)\"" : Text) := by decide +kernel
  refine ⟨(decode_encode_exact escapedFinding).1 hstorable hvalid, ?_⟩
  rw [← hmessage]
  exact (decode_encode_exact { escapedFinding with kind := .other 9 }).2 (by simp [Kind.recognized])

end Record

end CastAudit
