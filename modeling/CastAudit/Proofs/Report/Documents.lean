import CastAudit.Proofs.Json.Printing
import CastAudit.Proofs.Schema.Fits
import CastAudit.Profile
import Mathlib.Data.List.Nodup

/-!
# Reports that satisfy their schemas

The text of a report is read again and checked. What a schema asks of the values of a report is then asked of the report.

* `Passes depth value schema` — printed and read again, a value fits a schema, and `passes_listOf`,
  `passes_closedObject`: that, for lists and objects;
* `Report.Sound` — what every schema asks of its report;
* `validateText_of_sound` — the text of a sound report satisfies its schema.
-/

namespace CastAudit.Report

open Json (IsFlat ReadsAs fieldRead indented mend readsAs_flat)
open Schema (Fits)

/-! ## values -/

/-- Printed inside any number of brackets, the value is read as one that fits the schema, if `depth` brackets may still
be opened. -/
def Passes (depth : Nat) (value : Json) (schema : Schema) : Prop :=
  ∃ received, (∀ level, ReadsAs depth (indented level value) received) ∧ ∀ refer place, Fits refer place received schema

section Values

variable {depth : Nat}

theorem passes_wholeFrom {least i : Int} (h : least ≤ i) : Passes depth (.ofInt i) (wholeFrom least) :=
  ⟨_, fun level => Json.readsAs_ofInt depth level i, fun _ _ => fits_wholeFrom_iff.2 h⟩

theorem passes_anyText (s : Text) : Passes depth (.string s) anyText :=
  ⟨_, fun level => Json.readsAs_string depth level s, fun _ _ => fits_anyText _⟩

theorem passes_filledText {s : Text} (h : s ≠ []) : Passes depth (.string s) filledText :=
  ⟨_, fun level => Json.readsAs_string depth level s, fun _ _ => fits_filledText_iff.2 (Json.mend_ne_nil h)⟩

theorem passes_wordOf {words : List Text} {word : Text} (hvalid : ∀ w ∈ words, Text.valid w = true) (h : word ∈ words) :
    Passes depth (.string word) (wordOf words) := by
  refine ⟨_, fun level => Json.readsAs_string depth level word, fun _ _ => ?_⟩
  rw [Json.mend_of_valid (hvalid word h)]
  exact fits_wordOf h

theorem passes_listOf {items : List Json} {schema : Schema} (h : ∀ v ∈ items, Passes depth v schema) :
    Passes (depth + 1) (.array items) (listOf schema) := by
  obtain ⟨received, hread, hfits⟩ : ∃ received,
      (∀ level, List.Forall₂ (fun v w => ReadsAs depth (indented level v) w) items received) ∧
        ∀ w ∈ received, ∀ refer place, Fits refer place w schema := by
    induction items with
    | nil => exact ⟨[], fun _ => .nil, by simp⟩
    | cons v items ih =>
      rw [List.forall_mem_cons] at h
      obtain ⟨w, hw, hfit⟩ := h.1
      obtain ⟨received, hread, hfits⟩ := ih h.2
      exact ⟨w :: received, fun level => .cons (hw level) (hread level), List.forall_mem_cons.2 ⟨hfit, hfits⟩⟩
  refine ⟨_, fun level => Json.readsAs_array (hread (level + 1)), fun refer place => fits_listOf_iff.2 fun i hi => ?_⟩
  exact hfits i.1 (List.fst_mem_of_mem_zipIdx hi) _ _

/-! ## objects -/

/-- The names are valid texts, and no two are the same. -/
def ProperNames (named : List (String × Schema)) : Prop :=
  (named.map fun n => Text.ofString n.1).Nodup ∧ ∀ n ∈ named, Text.valid (Text.ofString n.1) = true

instance (named : List (String × Schema)) : Decidable (ProperNames named) :=
  inferInstanceAs (Decidable (_ ∧ _))

/-- The field has one of some names, and its value passes the schema of that name. -/
def PassesAmong (depth : Nat) (named : List (String × Schema)) (f : Text × Json) : Prop :=
  ∃ n ∈ named, f.1 = Text.ofString n.1 ∧ Passes depth f.2 n.2

/-- An object passes if its fields do and none is missing. -/
theorem passes_closedObject {fields : List (Text × Json)} {required : List String} {named : List (String × Schema)}
    (hnames : ProperNames named) (hrequired : ∀ n ∈ required, Text.ofString n ∈ fields.map Prod.fst)
    (h : ∀ f ∈ fields, PassesAmong depth named f) :
    Passes (depth + 1) (.object fields) (closedObject required named) := by
  -- what is read back has the same names, and each value fits the schema of its name
  obtain ⟨received, hread, hsame, hfits⟩ : ∃ received : List (Text × Json),
      (∀ level, List.Forall₂ (fun f g => g.1 = mend f.1 ∧ ReadsAs depth (indented level f.2) g.2) fields received) ∧
        received.map Prod.fst = fields.map Prod.fst ∧
        ∀ g ∈ received, ∃ n ∈ named, g.1 = Text.ofString n.1 ∧ ∀ refer place, Fits refer place g.2 n.2 := by
    clear hrequired
    induction fields with
    | nil => exact ⟨[], fun _ => .nil, rfl, by simp⟩
    | cons f fields ih =>
      rw [List.forall_mem_cons] at h
      obtain ⟨n, hn, hname, w, hw, hfit⟩ := h.1
      obtain ⟨received, hread, hsame, hfits⟩ := ih h.2
      have hmend : f.1 = mend f.1 := by rw [hname, Json.mend_of_valid (hnames.2 n hn)]
      exact ⟨(f.1, w) :: received, fun level => .cons ⟨hmend, hw level⟩ (hread level), by simp [hsame],
        List.forall_mem_cons.2 ⟨⟨n, hn, hname, hfit⟩, hfits⟩⟩
  refine ⟨_, fun level => Json.readsAs_object (hread (level + 1)), fun refer place => fits_closedObject_iff.2 ⟨?_, ?_, ?_⟩⟩
  · rwa [hsame]
  · intro g hg
    obtain ⟨n, hn, hname, -⟩ := hfits g hg
    exact List.mem_map.2 ⟨n, hn, hname.symm⟩
  · intro n hn value hvalue
    obtain ⟨n', hn', hname, hfit⟩ := hfits _ (Json.mem_of_field? hvalue)
    obtain rfl : n = n' := List.inj_on_of_nodup_map hnames.1 hn hn' hname
    exact hfit _ _

end Values

section Fields

variable {depth : Nat} {named : List (String × Schema)} {name : String}

theorem passesAmong_of {value : Json} {schema : Schema} (hname : (name, schema) ∈ named)
    (h : Passes depth value schema) : PassesAmong depth named (Text.ofString name, value) :=
  ⟨_, hname, rfl, h⟩

theorem passesAmong_intField {least i : Int} (hname : (name, wholeFrom least) ∈ named) (h : least ≤ i) :
    PassesAmong depth named (Json.intField name i) :=
  passesAmong_of hname (passes_wholeFrom h)

theorem passesAmong_filledInt {i : Int} (hname : (name, wholeFrom 0) ∈ named) (h : 0 ≤ i) :
    ∀ f ∈ Json.filledInt name i, PassesAmong depth named f := by
  unfold Json.filledInt
  split
  · simp
  · simpa using passesAmong_intField hname h

theorem passesAmong_anyText {s : Text} (hname : (name, anyText) ∈ named) :
    PassesAmong depth named (Json.textField name s) :=
  passesAmong_of hname (passes_anyText s)

theorem passesAmong_filledText {s : Text} (hname : (name, anyText) ∈ named) :
    ∀ f ∈ Json.filledText name s, PassesAmong depth named f := by
  unfold Json.filledText
  split
  · simp
  · simpa using passesAmong_anyText hname

end Fields

/-! ## reports -/

/-- All counts of a summary. -/
def countsOf (s : ScanSummary) : List Int :=
  [s.packages, s.logs, s.scanned, s.cached, s.missing, s.records, s.failures, s.failedLogs, s.lines, s.headers]

/-- A ranked package with a rank, an id and no count below zero. -/
def SoundRank (p : RankedPackage) : Prop := 1 ≤ p.rank ∧ p.canonicalId ≠ [] ∧ 0 ≤ p.stars ∧ 0 ≤ p.findings

/-- The report holds what its schema asks for: lists that were made, words that are known, texts that are not empty and
numbers that are not too small. A summary is that of a run which no database keeps. -/
def Sound : Report → Prop
  | scan s => s.profile ∈ Profile.names ∧ s.runId = [] ∧ ∀ n ∈ countsOf s, 0 ≤ n
  | patterns total ps =>
    0 ≤ total ∧ ∃ counts, ps = some counts ∧ ∀ c ∈ counts, c.pattern.kind ∈ Kind.recognized ∧ 1 ≤ c.count
  | ranking ranked packages =>
    (∃ ps, ranked = some ps ∧ ∀ p ∈ ps, SoundRank p) ∧ ∀ p ∈ packages, p.name ≠ [] ∧ ∀ n ∈ p.popularity, 0 ≤ n
  | markers packages castTotal transmuteTotal missing =>
    (∃ ps, packages = some ps ∧ ∀ p ∈ ps, p.packageId ≠ [] ∧ 0 ≤ p.cast ∧ 0 ≤ p.transmute) ∧
      0 ≤ castTotal ∧ 0 ≤ transmuteTotal ∧ 0 ≤ missing

section Reports

variable {depth : Nat}

theorem passes_ofSummary {s : ScanSummary} (h : (scan s).Sound) : Passes (depth + 1) (ofSummary s) scanSchema := by
  obtain ⟨hprofile, hrun, hcounts⟩ := h
  have hword : s.profile ∈ ([Text.ofString "cast", "transmute", "lint", "bugs"] : List Text) :=
    (by decide : ∀ w ∈ Profile.names, w ∈ ([Text.ofString "cast", "transmute", "lint", "bugs"] : List Text)) _ hprofile
  simp only [countsOf, List.forall_mem_cons] at hcounts
  obtain ⟨hpackages, hlogs, hscanned, hcached, hmissing, hrecords, hfailures, hfailed, hlines, hheaders, -⟩ := hcounts
  unfold ofSummary scanSchema
  refine passes_closedObject (by decide +kernel) (by simp [Json.textField, Json.intField]) ?_
  rw [hrun]
  simp only [List.forall_mem_append, List.forall_mem_cons, Json.filledText, List.isEmpty_nil, if_true]
  refine ⟨⟨⟨⟨⟨passesAmong_of (by simp) (passes_wordOf (by decide +kernel) hword), by simp⟩, by simp⟩, ?_⟩, ?_⟩, ?_⟩
  · exact ⟨passesAmong_intField (by simp) hpackages, passesAmong_intField (by simp) hlogs,
      passesAmong_intField (by simp) hscanned, passesAmong_intField (by simp) hcached,
      passesAmong_intField (by simp) hmissing, passesAmong_intField (by simp) hrecords,
      passesAmong_intField (by simp) hfailures, by simp⟩
  · exact passesAmong_filledInt (by simp) hfailed
  · exact ⟨passesAmong_intField (by simp) hlines, passesAmong_intField (by simp) hheaders, by simp⟩

theorem passes_ofPatternCount {c : PatternCount} (hkind : c.pattern.kind ∈ Kind.recognized) (hcount : 1 ≤ c.count) :
    Passes (depth + 2) (ofPatternCount c)
      (closedObject ["key", "count"] [("key", patternSchema), ("count", wholeFrom 1)]) := by
  have hkey : Passes (depth + 1) (.object ([Json.textField "kind" c.pattern.kind.tag] ++
      Json.filledText "from_type" c.pattern.fromType ++ Json.filledText "to_type" c.pattern.toType)) patternSchema := by
    refine passes_closedObject (by decide +kernel) (by simp [Json.textField]) ?_
    simp only [List.forall_mem_append, List.forall_mem_cons]
    exact ⟨⟨⟨passesAmong_of (by simp) (passes_wordOf (by decide +kernel) (List.mem_map_of_mem hkind)), by simp⟩,
      passesAmong_filledText (by simp)⟩, passesAmong_filledText (by simp)⟩
  refine passes_closedObject (by decide +kernel) (by simp [Json.intField]) ?_
  simp only [List.forall_mem_cons]
  exact ⟨passesAmong_of (by simp) hkey, passesAmong_intField (by simp) hcount, by simp⟩

theorem passes_ofRanked {p : RankedPackage} (h : SoundRank p) : Passes (depth + 1) (ofRanked p) rankedSchema := by
  obtain ⟨hrank, hid, hstars, hfindings⟩ := h
  refine passes_closedObject (by decide +kernel) (by simp [Json.textField, Json.intField]) ?_
  simp only [List.forall_mem_append, List.forall_mem_cons]
  exact ⟨⟨passesAmong_intField (by simp) hrank, passesAmong_of (by simp) (passes_filledText hid), passesAmong_anyText (by simp),
    passesAmong_intField (by simp) hstars, by simp⟩, passesAmong_filledInt (by simp) hfindings⟩

theorem passes_ofPackage {p : Package} (hname : p.name ≠ []) (hpopularity : ∀ n ∈ p.popularity, 0 ≤ n) :
    Passes (depth + 1) (ofPackage p) packageSchema := by
  refine passes_closedObject (by decide +kernel) (by simp [Json.textField]) ?_
  simp only [List.forall_mem_append, List.forall_mem_cons]
  refine ⟨⟨⟨passesAmong_of (by simp) (passes_filledText hname), by simp⟩, passesAmong_filledText (by simp)⟩, ?_⟩
  intro f hf
  obtain ⟨n, hn, rfl⟩ := Option.map_eq_some_iff.1 (Option.mem_toList.1 hf)
  exact passesAmong_intField (by simp) (hpopularity n hn)

theorem passes_ofPackageMarkers {p : PackageMarkers} (hid : p.packageId ≠ []) (hcast : 0 ≤ p.cast)
    (htransmute : 0 ≤ p.transmute) :
    Passes (depth + 1) (ofPackageMarkers p) (closedObject ["package_id", "cast", "transmute"]
      [("package_id", filledText), ("cast", wholeFrom 0), ("transmute", wholeFrom 0)]) := by
  refine passes_closedObject (by decide +kernel) (by simp [Json.textField, Json.intField]) ?_
  simp only [List.forall_mem_cons]
  exact ⟨passesAmong_of (by simp) (passes_filledText hid), passesAmong_intField (by simp) hcast,
    passesAmong_intField (by simp) htransmute, by simp⟩

theorem passes_list {α : Type} {f : α → Json} {schema : Schema} {xs : List α}
    (h : ∀ x ∈ xs, Passes depth (f x) schema) : Passes (depth + 1) (list f (some xs)) (listOf schema) :=
  passes_listOf (List.forall_mem_map.2 h)

/-- **A sound report passes its schema.** -/
theorem passes_toJson {r : Report} (h : r.Sound) : Passes (depth + 4) r.toJson r.schema := by
  cases r with
  | scan s => exact passes_ofSummary h
  | patterns total ps =>
    obtain ⟨htotal, counts, rfl, hcounts⟩ := h
    refine passes_closedObject (by decide +kernel) (by simp [Json.intField]) ?_
    simp only [List.forall_mem_cons]
    have hlist := passes_list fun c hc => @passes_ofPatternCount depth c (hcounts c hc).1 (hcounts c hc).2
    exact ⟨passesAmong_intField (by simp) htotal, passesAmong_of (by simp) hlist, by simp⟩
  | ranking ranked packages =>
    obtain ⟨⟨ps, rfl, hranked⟩, hpackages⟩ := h
    refine passes_closedObject (by decide +kernel) (by simp) ?_
    rw [List.forall_mem_cons]
    refine ⟨passesAmong_of (by simp) (passes_list fun p hp => passes_ofRanked (hranked p hp)), ?_⟩
    have hlist := passes_listOf (List.forall_mem_map.2 fun p hp =>
      @passes_ofPackage (depth + 1) p (hpackages p hp).1 (hpackages p hp).2)
    split
    · simp
    · exact List.forall_mem_singleton.2 (passesAmong_of (by simp) hlist)
  | markers packages castTotal transmuteTotal missing =>
    obtain ⟨⟨ps, rfl, hps⟩, hcast, htransmute, hmissing⟩ := h
    refine passes_closedObject (by decide +kernel) (by simp [Json.intField]) ?_
    simp only [List.forall_mem_cons]
    have hlist := passes_list fun p hp =>
      @passes_ofPackageMarkers (depth + 1) p (hps p hp).1 (hps p hp).2.1 (hps p hp).2.2
    exact ⟨passesAmong_of (by simp) hlist, passesAmong_intField (by simp) hcast, passesAmong_intField (by simp) htransmute,
      passesAmong_intField (by simp) hmissing, by simp⟩

end Reports

/-- A text that is read as some value satisfies a schema if the value fits it. -/
theorem validateText_iff {schema : Schema} {text rest : Text} {value : Json}
    (h : Json.first? text = some (value, rest)) :
    validateText schema text = .ok () ↔ schema.violations value = [] := by
  simp only [validateText, h]
  cases schema.violations value <;> simp

/-- **The text of a sound report satisfies its schema.** -/
theorem validateText_of_sound {r : Report} (h : r.Sound) : validateText r.schema (r.print ++ [Text.lf]) = .ok () := by
  obtain ⟨received, hread, hfits⟩ := @passes_toJson 9996 r h
  have hends : Json.EndsNumber [Text.lf] := Json.endsNumber_newLine 0 []
  exact (validateText_iff (Json.first?_of_readsAs (hread 0) hends)).2 (hfits _ _)

/-! ## broken summaries -/

/-- **A summary that satisfies its schema** counts no lines below zero. -/
theorem lines_of_validateText {s : ScanSummary} (h : validateText scanSchema ((scan s).print ++ [Text.lf]) = .ok ()) :
    0 ≤ s.lines := by
  have hint (name : String) (i : Int) : IsFlat (Json.intField name i).2 := .inl ⟨i, rfl⟩
  have hflat : ∀ fields, ofSummary s = .object fields → ∀ f ∈ fields, IsFlat f.2 := by
    rintro fields ⟨⟩
    simp only [List.forall_mem_append, List.forall_mem_cons, hint, Json.filledText, Json.filledInt]
    refine ⟨⟨⟨⟨⟨.inr ⟨_, rfl⟩, by simp⟩, ?_⟩, by simp⟩, ?_⟩, by simp⟩ <;> split
    · simp
    · exact List.forall_mem_singleton.2 (.inr ⟨_, rfl⟩)
    · simp
    · exact List.forall_mem_singleton.2 (hint _ _)
  have hread := readsAs_flat (hflat _ rfl) 9999 0
  have hends : Json.EndsNumber [Text.lf] := Json.endsNumber_newLine 0 []
  have hnone := (validateText_iff (Json.first?_of_readsAs hread hends)).1 h
  have hfits := (fits_closedObject_iff.1 hnone).2.2 ("lines", wholeFrom 0) (by simp) (.ofInt s.lines)
  refine fits_wholeFrom_iff.1 (hfits ?_)
  have hname : mend (Text.ofString "lines") = "lines" := by decide +kernel
  have hother : (Text.ofString "lines" == mend (Text.ofString "headers")) = false := by decide +kernel
  simp [Json.field?, Json.intField, Json.ofInt, fieldRead, List.lookup_cons, hname, hother]

end CastAudit.Report
