import CastAudit.Report.Schemas
import CastAudit.Proofs.Text.Characters
import CastAudit.Proofs.Text.Distinct
import CastAudit.Proofs.Text.Numbers

/-!
# Documents that fit a schema

What the schemas of reports ask for, told without a verdict.

* `lookup_sortedFields` — sorting the fields of an object does not change what its names stand for;
* `Fits refer place value schema` — checking finds nothing;
* `fits_wholeFrom_iff`, `fits_filledText_iff`, `fits_wordOf`, `fits_listOf_iff`, `fits_closedObject_iff` — when a value
  fits a schema of each form.
-/

namespace CastAudit

/-! ## fields -/

namespace Json

theorem lookup_eq_some_iff_find? {fields : List (Text × Json)} {name : Text} {value : Json} :
    fields.lookup name = some value ↔ fields.find? (fun f => f.1 == name) = some (name, value) := by
  induction fields with
  | nil => simp
  | cons f fields ih =>
    rw [List.lookup_cons, List.find?_cons]
    by_cases hf : f.1 = name
    · subst hf
      simp [Prod.ext_iff]
    · have hname : (name == f.1) = false := by simpa using Ne.symm hf
      have hname' : (f.1 == name) = false := by simpa using hf
      rw [hname, hname', ih]

theorem mem_sortedFields {fields : List (Text × Json)} {f : Text × Json} :
    f ∈ sortedFields fields ↔ field? fields f.1 = some f.2 := by
  rw [sortedFields, (List.mergeSort_perm ..).mem_iff, mem_eraseDupsBy_key, field?, lookup_eq_some_iff_find?]

/-- **Sorting changes no field.** -/
theorem lookup_sortedFields (fields : List (Text × Json)) (name : Text) :
    (sortedFields fields).lookup name = field? fields name := by
  have hmem {value : Json} (h : (sortedFields fields).lookup name = some value) : field? fields name = some value :=
    mem_sortedFields.1 (List.mem_of_find?_eq_some (lookup_eq_some_iff_find?.1 h))
  cases hfield : field? fields name with
  | none =>
    cases hlookup : (sortedFields fields).lookup name with
    | none => rfl
    | some value =>
      rw [hmem hlookup] at hfield
      cases hfield
  | some value =>
    have hthere : (name, value) ∈ sortedFields fields := mem_sortedFields.2 hfield
    cases hlookup : (sortedFields fields).lookup name with
    | none => simpa using List.lookup_eq_none_iff.1 hlookup _ hthere
    | some other => rw [← hfield, hmem hlookup]

theorem mem_of_field? {fields : List (Text × Json)} {name : Text} {value : Json} (h : field? fields name = some value) :
    (name, value) ∈ fields :=
  List.mem_reverse.1 (List.mem_of_find?_eq_some (lookup_eq_some_iff_find?.1 h))

theorem isSome_field?_iff {fields : List (Text × Json)} {name : Text} :
    (field? fields name).isSome = true ↔ name ∈ fields.map Prod.fst := by
  rw [Option.isSome_iff_exists, List.mem_map]
  constructor
  · rintro ⟨value, h⟩
    exact ⟨_, mem_of_field? h, rfl⟩
  · rintro ⟨f, hf, rfl⟩
    cases hfield : field? fields f.1 with
    | some value => exact ⟨value, rfl⟩
    | none => simpa using List.lookup_eq_none_iff.1 hfield f (List.mem_reverse.2 hf)

end Json

namespace Schema

/-! ## verdicts -/

theorem violations_append (a b : Verdict) : (a ++ b).violations = a.violations ++ b.violations := rfl

theorem violations_all (verdicts : List Verdict) :
    (Verdict.all verdicts).violations = verdicts.flatMap Verdict.violations := by
  induction verdicts with
  | nil => rfl
  | cons v verdicts ih => rw [List.flatMap_cons, ← ih]; rfl

theorem violations_demand {holds : Bool} {place : Place} {message : Text} :
    (Verdict.demand holds place message).violations = [] ↔ holds = true := by
  cases holds <;> simp [Verdict.demand, Verdict.fault]

/-! ## values and constraints -/

/-- Checking a value against a schema finds nothing. -/
def Fits (refer : Referred) (place : Place) (value : Json) (schema : Schema) : Prop :=
  (check refer place value schema).violations = []

/-- Checking a value against a constraint finds nothing. -/
def Keeps (refer : Referred) (place : Place) (value : Json) (constraint : Constraint) : Prop :=
  (checkOne refer place value constraint).violations = []

section Fits

variable {refer : Referred} {place : Place} {value : Json}

theorem violations_checkAll (constraints : List Constraint) :
    (checkAll refer place value constraints).violations = [] ↔ ∀ c ∈ constraints, Keeps refer place value c := by
  induction constraints with
  | nil => simp [checkAll]
  | cons c constraints ih =>
    rw [checkAll, violations_append, List.append_eq_nil_iff, ih, List.forall_mem_cons]
    rfl

/-- A value of one of the types that are asked for fits if it keeps all constraints. -/
theorem fits_asks_iff {types : List JsonType} {constraints : List Constraint}
    (htype : types.any (JsonType.of value).serves = true) :
    Fits refer place value (.asks types constraints) ↔ ∀ c ∈ constraints, Keeps refer place value c := by
  rw [Fits, check.eq_def]
  simp only [htype, Bool.or_true, if_true]
  rw [violations_append, ← violations_checkAll]
  rfl

theorem violations_checkRequired {fields : List (Text × Json)} {names : List Text} :
    (checkRequired place fields names).violations = [] ↔ ∀ n ∈ names, n ∈ fields.map Prod.fst := by
  rw [checkRequired, violations_all, List.flatMap_map, List.flatMap_eq_nil_iff]
  refine forall₂_congr fun n _ => ?_
  rw [← Json.isSome_field?_iff]
  cases (Json.field? fields n).isSome <;> simp [Verdict.passed, Verdict.fault]

/-- The named fields that are there fit. -/
theorem violations_checkNamed {fields : List (Text × Json)} (named : List (Text × Schema)) :
    (checkNamed refer place fields named).violations = [] ↔
      ∀ n ∈ named, ∀ found, fields.lookup n.1 = some found → Fits refer (n.1 :: place) found n.2 := by
  induction named with
  | nil => simp [checkNamed]
  | cons n named ih =>
    rw [checkNamed, violations_append, List.append_eq_nil_iff, ih, List.forall_mem_cons]
    refine and_congr_left fun _ => ?_
    cases fields.lookup n.1 with
    | none => simp
    | some found => simp [Fits]

/-- An object with no other fields than the named ones. -/
theorem keeps_fields_iff {fields : List (Text × Json)} {named : List (Text × Schema)} :
    Keeps refer place (.object fields) (.fields named [] (.always false)) ↔
      (∀ f ∈ fields, f.1 ∈ named.map Prod.fst) ∧
      ∀ n ∈ named, ∀ found, Json.field? fields n.1 = some found → Fits refer (n.1 :: place) found n.2 := by
  have hfree : (Verdict.all (((Json.sortedFields fields).filter fun f => !(named.map Prod.fst).contains f.1).map fun f =>
      Verdict.fault place ("Additional property " ++ f.1 ++ " is not allowed"))).violations = [] ↔
      ∀ f ∈ fields, f.1 ∈ named.map Prod.fst := by
    rw [violations_all, List.flatMap_map, List.flatMap_eq_nil_iff]
    constructor
    · intro h f hf
      obtain ⟨value, hvalue⟩ := Option.isSome_iff_exists.1 (Json.isSome_field?_iff.2 (List.mem_map_of_mem hf))
      by_contra hother
      have hmem : (f.1, value) ∈ (Json.sortedFields fields).filter fun f => !(named.map Prod.fst).contains f.1 :=
        List.mem_filter.2 ⟨Json.mem_sortedFields.2 hvalue, by simpa using hother⟩
      cases h _ hmem
    · intro h f hf
      obtain ⟨hsorted, hother⟩ := List.mem_filter.1 hf
      have hname := h f (Json.mem_of_field? (Json.mem_sortedFields.1 hsorted))
      rw [Bool.not_eq_true', ← Bool.not_eq_true, List.contains_iff_mem] at hother
      exact absurd hname hother
  rw [Keeps, checkOne]
  simp only [violations_append, List.append_eq_nil_iff, violations_checkNamed, Json.lookup_sortedFields, List.any_nil,
    Bool.not_false, Bool.and_true, refusesAll, if_true, hfree, checkFormed, Verdict.passed, and_true]

end Fits

end Schema

/-! ## integers -/

namespace Decimal

theorem literal_of_ofInt (i : Int) : Literal.of (Text.ofInt i) = ⟨decide (i < 0), Text.ofNat i.natAbs, [], 0⟩ := by
  have hdigits := (Text.ofNat_digits i.natAbs).2
  have htake : (Text.ofNat i.natAbs).takeWhile Text.isDigit = Text.ofNat i.natAbs := by
    rw [← List.append_nil (Text.ofNat i.natAbs), List.takeWhile_append_of_pos hdigits]
    rfl
  have hdrop : (Text.ofNat i.natAbs).dropWhile Text.isDigit = [] := by
    rw [← List.append_nil (Text.ofNat i.natAbs), List.dropWhile_append_of_pos hdigits]
    rfl
  simp only [Literal.of, Text.signOf_ofInt, htake, hdrop]
  rfl

/-- The value of the decimal form of an integer. -/
theorem ofLiteral?_ofInt (i : Int) : ofLiteral? (Text.ofInt i) = some ⟨i, 0⟩ := by
  have hmagnitude : Literal.magnitude ⟨decide (i < 0), Text.ofNat i.natAbs, [], 0⟩ = i.natAbs := by
    rw [Literal.magnitude, List.append_nil, Text.digitsValue_ofNat]
  have hwhole : (Text.ofNat i.natAbs).isEmpty = false := by simpa using (Text.ofNat_digits i.natAbs).1
  have hpower : Text.wrap64 0 = 0 := by decide
  simp only [ofLiteral?, literal_of_ofInt, Literal.value, hmagnitude, hwhole, hpower]
  by_cases hzero : i = 0
  · simp [hzero]
  · have hsigned : (if decide (i < 0) = true then -(i.natAbs : Int) else i.natAbs) = i := by
      simp only [decide_eq_true_eq]
      split <;> omega
    rw [hsigned]
    simp [hzero]

theorem less_whole (i k : Int) : less ⟨i, 0⟩ ⟨k, 0⟩ = decide (i < k) := by
  simp [less, align]

end Decimal

theorem JsonType.of_ofInt (i : Int) : JsonType.of (Json.ofInt i) = .integer := by
  simp [JsonType.of, Json.ofInt, Decimal.ofLiteral?_ofInt, Decimal.isWhole]

/-! ## the forms of schemas -/

namespace Report

open Schema (Fits Keeps Place Referred)

variable {refer : Referred} {place : Place}

theorem fits_wholeFrom_iff {least i : Int} : Fits refer place (.ofInt i) (wholeFrom least) ↔ least ≤ i := by
  rw [wholeFrom, Schema.fits_asks_iff (by rw [JsonType.of_ofInt]; rfl), List.forall_mem_singleton, Keeps,
    Schema.checkOne]
  simp only [Schema.numberOf?, Json.ofInt, Decimal.ofLiteral?_ofInt, Schema.violations_demand, Schema.keeps,
    Decimal.less_whole]
  simp

theorem fits_anyText (s : Text) : Fits refer place (.string s) anyText :=
  (Schema.fits_asks_iff rfl).2 (by simp)

theorem fits_filledText_iff {s : Text} : Fits refer place (.string s) filledText ↔ s ≠ [] := by
  rw [filledText, Schema.fits_asks_iff rfl, List.forall_mem_singleton, Keeps, Schema.checkOne,
    Schema.violations_demand, Schema.keepsSize, decide_eq_true_eq, Text.charCount]
  cases s with
  | nil => simp
  | cons b s => simp [Text.pieces_cons]

theorem fits_wordOf {words : List Text} {word : Text} (h : word ∈ words) :
    Fits refer place (.string word) (wordOf words) := by
  rw [wordOf, Schema.fits_asks_iff rfl, List.forall_mem_singleton, Keeps, Schema.checkOne,
    Schema.violations_demand, List.map_map, List.contains_eq_mem, decide_eq_true_eq]
  exact List.mem_map_of_mem h

theorem fits_listOf_iff {items : List Json} {schema : Schema} :
    Fits refer place (.array items) (listOf schema) ↔
      ∀ i ∈ items.zipIdx, Fits refer (Text.ofNat i.2 :: place) i.1 schema := by
  rw [listOf, Schema.fits_asks_iff rfl, List.forall_mem_singleton, Keeps, Schema.checkOne]
  simp only [Schema.violations_all, List.flatMap_map, List.flatMap_eq_nil_iff]
  rfl

/-- **An object fits** if it has all that is required, nothing but what is named, and each field fits by its name. -/
theorem fits_closedObject_iff {fields : List (Text × Json)} {required : List String} {named : List (String × Schema)} :
    Fits refer place (.object fields) (closedObject required named) ↔
      (∀ n ∈ required, Text.ofString n ∈ fields.map Prod.fst) ∧
      (∀ f ∈ fields, f.1 ∈ named.map fun n => Text.ofString n.1) ∧
      ∀ n ∈ named, ∀ value, Json.field? fields (Text.ofString n.1) = some value →
        Fits refer (Text.ofString n.1 :: place) value n.2 := by
  rw [closedObject, Schema.fits_asks_iff rfl, List.forall_mem_cons, List.forall_mem_singleton, Keeps, Schema.checkOne,
    Schema.violations_checkRequired, Schema.keeps_fields_iff, List.map_map, List.forall_mem_map, List.forall_mem_map]
  rfl

end Report

end CastAudit
