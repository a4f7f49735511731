import CastAudit.Package
import CastAudit.Proofs.Text.Ends

/-!
# Ids and their parts

An id is cut at the last hyphen that a digit follows, unless nothing stands before that hyphen.

* `CutAt s i` — a hyphen with a digit behind it, and `IsVersion s` — a text that starts with a digit and holds none;
* `Splits s name version` — the parts of an id, and `Splits.unique`;
* `cutVersion_cases` — the search from the end comes to the parts, or passes no such hyphen;
* `ofId_exact` — an id is put together again from its parts, and exactly which parts an id gives back.
-/

namespace CastAudit.Package

/-- A hyphen stands at a place of the text, and a digit behind it. -/
def CutAt (s : Text) (i : Nat) : Prop := s[i]? = some Text.dash ∧ ∃ d ∈ s[i + 1]?, Text.isDigit d = true
deriving Decidable

/-- The text starts with a digit, and no hyphen in it has a digit behind it. -/
structure IsVersion (s : Text) : Prop where
  digit : ∃ d ∈ s.head?, Text.isDigit d = true
  uncut : ∀ i, ¬ CutAt s i

theorem CutAt.lt_length {s : Text} {i : Nat} (h : CutAt s i) : i < s.length := (List.getElem?_eq_some_iff.1 h.1).1

theorem isVersion_iff {s : Text} :
    IsVersion s ↔ (∃ d ∈ s.head?, Text.isDigit d = true) ∧ ∀ i < s.length, ¬ CutAt s i :=
  ⟨fun h => ⟨h.digit, fun i _ => h.uncut i⟩, fun h => ⟨h.1, fun i hi => h.2 i hi.lt_length hi⟩⟩

instance (s : Text) : Decidable (IsVersion s) := decidable_of_iff' _ isVersion_iff

/-- The text is a name and a version with a hyphen between them. -/
structure Splits (s name version : Text) : Prop where
  eq : s = name ++ Text.dash :: version
  name_ne : name ≠ []
  version : IsVersion version

section Parts

variable {s name version name' version' : Text}

theorem IsVersion.ne_nil (h : IsVersion version) : version ≠ [] := by
  rintro rfl
  obtain ⟨d, hd, -⟩ := h.digit
  cases hd

theorem cutAt_append (front s : Text) (i : Nat) : CutAt (front ++ s) (front.length + i) ↔ CutAt s i := by
  rw [CutAt, CutAt, List.getElem?_append_right (by omega), List.getElem?_append_right (by omega),
    Nat.add_assoc, Nat.add_sub_cancel_left, Nat.add_sub_cancel_left]

/-- The hyphen before a version has a digit behind it. -/
theorem Splits.cutAt (h : Splits s name version) : CutAt s name.length := by
  obtain ⟨d, hd, hdigit⟩ := h.version.digit
  have hcut : CutAt (Text.dash :: version) 0 := ⟨rfl, d, by simpa [List.head?_eq_getElem?] using hd, hdigit⟩
  rw [h.eq]
  exact (cutAt_append name _ 0).2 hcut

/-- No later hyphen has one. -/
theorem Splits.le_of_cutAt (h : Splits s name version) {i : Nat} (hi : CutAt s i) : i ≤ name.length := by
  by_contra hlt
  obtain ⟨j, rfl⟩ : ∃ j, i = (name ++ [Text.dash]).length + j := ⟨i - (name.length + 1), by simp; omega⟩
  have heq : s = (name ++ [Text.dash]) ++ version := by simp [h.eq]
  rw [heq, cutAt_append] at hi
  exact h.version.uncut j hi

/-- **An id has one name and one version at most.** -/
theorem Splits.unique (h : Splits s name version) (h' : Splits s name' version') : name = name' ∧ version = version' := by
  have hlength : name.length = name'.length := Nat.le_antisymm (h'.le_of_cutAt h.cutAt) (h.le_of_cutAt h'.cutAt)
  obtain ⟨hname, hrest⟩ := List.append_inj (h.eq.symm.trans h'.eq) hlength
  exact ⟨hname, (List.cons.inj hrest).2⟩

end Parts

/-! ## the search -/

/-- **The search from the end** stops at the last hyphen with a digit behind it. What it has passed, `after`, holds no
place where it could have stopped. -/
theorem cutVersion_cases (after rest : Text)
    (hpassed : ∀ i > 0, rest.length ≤ i + 1 → ¬ CutAt (rest.reverse ++ after) i) :
    (cutVersion after rest = none ∧ ∀ i > 0, ¬ CutAt (rest.reverse ++ after) i) ∨
      ∃ name version, cutVersion after rest = some (name, version) ∧ Splits (rest.reverse ++ after) name version := by
  fun_induction cutVersion after rest with
  | case1 after d b r hcut =>
    right
    obtain ⟨⟨rfl, hdigit⟩, hr⟩ : (b = Text.dash ∧ Text.isDigit d = true) ∧ r ≠ [] := by simpa using hcut
    refine ⟨_, _, rfl, by simp, by simpa using hr, ⟨d, rfl, hdigit⟩, fun i hi => ?_⟩
    have heq : (d :: Text.dash :: r).reverse ++ after = (r.reverse ++ [Text.dash]) ++ d :: after := by simp
    have hlength : (r.reverse ++ [Text.dash]).length = r.length + 1 := by simp
    rw [← cutAt_append (r.reverse ++ [Text.dash]), ← heq] at hi
    exact hpassed _ (by omega) (by simp) hi
  | case2 after d b r hno ih =>
    have heq : (d :: b :: r).reverse ++ after = (b :: r).reverse ++ d :: after := by simp
    rw [heq] at hpassed ⊢
    refine ih fun i hi hle hcut => ?_
    by_cases hlast : i = r.length
    · -- the place that the search has just passed
      subst hlast
      have heq' : (b :: r).reverse ++ d :: after = r.reverse ++ b :: d :: after := by simp
      rw [heq', ← r.length_reverse, ← Nat.add_zero r.reverse.length, cutAt_append] at hcut
      obtain ⟨hb, d', hd', hdigit⟩ := hcut
      obtain rfl : b = Text.dash := by simpa using hb
      obtain rfl : d = d' := by simpa using hd'
      have hr : r ≠ [] := List.ne_nil_of_length_pos hi
      exact hno (by simp [hdigit, hr])
    · simp only [List.length_cons] at hle
      exact hpassed i hi (by simp; omega) hcut
  | case3 rest after hshort =>
    refine .inl ⟨rfl, fun i hi => hpassed i hi ?_⟩
    rcases rest with _ | ⟨d, _ | ⟨b, r⟩⟩
    · simp
    · simp
    · exact absurd rfl (hshort d b r)

/-- **The package of an id** has its parts, or the whole as its name. -/
theorem ofId_cases (id : Text) :
    (ofId id = { name := Text.trim id } ∧ ∀ i > 0, ¬ CutAt (Text.trim id) i) ∨
      ∃ name version, ofId id = { name, version } ∧ Splits (Text.trim id) name version := by
  have hcases := cutVersion_cases [] (Text.trim id).reverse fun i _ hle hcut => by
    obtain ⟨-, d, hd, -⟩ := hcut
    have := (List.getElem?_eq_some_iff.1 hd).1
    simp at hle this
    omega
  rw [List.reverse_reverse, List.append_nil] at hcases
  rcases hcases with ⟨hcut, hnone⟩ | ⟨name, version, hcut, hsplits⟩
  · exact .inl ⟨by simp only [ofId, hcut], hnone⟩
  · exact .inr ⟨name, version, by simp only [ofId, hcut], hsplits⟩

theorem ofId_of_splits {id name version : Text} (h : Splits (Text.trim id) name version) :
    ofId id = { name, version } := by
  rcases ofId_cases id with ⟨-, hnone⟩ | ⟨name', version', hof, hsplits⟩
  · exact absurd h.cutAt (hnone _ (List.length_pos_iff.2 h.name_ne))
  · obtain ⟨rfl, rfl⟩ := hsplits.unique h
    exact hof

/-! ## there and back -/

/-- A name and a version are trimmed at their outer ends. -/
theorem trim_joined_iff {name version : Text} (hname : name ≠ []) (hversion : version ≠ []) :
    Text.trim (name ++ Text.dash :: version) = name ++ Text.dash :: version ↔
      Text.FrontBare name ∧ Text.BackBare version := by
  have hfresh : Text.StartsFresh (Text.dash :: version) := Text.startsFresh_ascii (by decide) version
  rw [Text.trim_eq_iff_bare, Text.frontBare_append hfresh hname, Text.backBare_append hfresh (by simp),
    Text.backBare_cons (by decide) hversion]

/-- Without a version: the name is trimmed and is not cut. -/
theorem ofId_name_iff (name : Text) :
    ofId name = { name } ↔ Text.trim name = name ∧ ∀ i > 0, ¬ CutAt name i := by
  rcases ofId_cases name with ⟨hof, hnone⟩ | ⟨front, version, hof, hsplits⟩
  · rw [hof]
    constructor
    · intro h
      have htrim : Text.trim name = name := congrArg Package.name h
      rw [htrim] at hnone
      exact ⟨htrim, hnone⟩
    · rintro ⟨htrim, -⟩
      rw [htrim]
  · rw [hof]
    constructor
    · intro h
      exact absurd (congrArg Package.version h) hsplits.version.ne_nil
    · rintro ⟨htrim, hnone⟩
      rw [htrim] at hsplits
      exact absurd hsplits.cutAt (hnone _ (List.length_pos_iff.2 hsplits.name_ne))

/-- With a version: the cut is at the hyphen between the two. -/
theorem ofId_joined_iff (name : Text) {version : Text} (hversion : version ≠ []) :
    ofId (name ++ Text.dash :: version) = { name, version } ↔
      name ≠ [] ∧ Text.FrontBare name ∧ IsVersion version ∧ Text.BackBare version := by
  constructor
  · intro h
    rcases ofId_cases (name ++ Text.dash :: version) with ⟨hof, -⟩ | ⟨name', version', hof, hsplits⟩
    · exact absurd (congrArg Package.version (h.symm.trans hof)) hversion
    · have hparts := h.symm.trans hof
      obtain rfl : name = name' := congrArg Package.name hparts
      obtain rfl : version = version' := congrArg Package.version hparts
      obtain ⟨hfront, hback⟩ := (trim_joined_iff hsplits.name_ne hversion).1 hsplits.eq
      exact ⟨hsplits.name_ne, hfront, hsplits.version, hback⟩
  · rintro ⟨hname, hfront, hisVersion, hback⟩
    exact ofId_of_splits ⟨(trim_joined_iff hname hversion).2 ⟨hfront, hback⟩, hname, hisVersion⟩

/-- **Ids are taken apart and put together again.** The parts of any id make its trimming, and their version is empty or
a version. A name and a version are the parts of their id exactly under the conditions stated. -/
theorem ofId_exact :
    (∀ id : Text, (ofId id).id = Text.trim id ∧ ((ofId id).version = [] ∨ IsVersion (ofId id).version)) ∧
    ∀ name version : Text, ofId (Package.id { name, version }) = { name, version } ↔
      version = [] ∧ Text.trim name = name ∧ (∀ i > 0, ¬ CutAt name i) ∨
      version ≠ [] ∧ name ≠ [] ∧ Text.FrontBare name ∧ IsVersion version ∧ Text.BackBare version := by
  constructor
  · intro id
    rcases ofId_cases id with ⟨hof, -⟩ | ⟨name, version, hof, hsplits⟩
    · rw [hof]
      exact ⟨rfl, .inl rfl⟩
    · have hempty : version.isEmpty = false := by simpa using hsplits.version.ne_nil
      rw [hof]
      exact ⟨by simp [Package.id, versioned, hempty, hsplits.eq], .inr hsplits.version⟩
  · intro name version
    by_cases hversion : version = []
    · subst hversion
      have hid : Package.id { name } = name := rfl
      rw [hid, ofId_name_iff]
      simp
    · have hempty : version.isEmpty = false := by simpa using hversion
      have hid : Package.id { name, version } = name ++ Text.dash :: version := by
        simp [Package.id, versioned, hempty]
      rw [hid, ofId_joined_iff name hversion]
      simp [hversion]

/-- Hyphens with digits behind them: one in a name with a version, one at the front of a name, and one that takes a part
of the name for its version. -/
theorem ofId_exact_hyphens :
    ofId (Package.id { name := "x-1", version := "2-rc" }) = { name := "x-1", version := "2-rc" } ∧
    ofId (Package.id { name := "-1" }) = { name := "-1" } ∧
    ofId (Package.id { name := "x-1" }) ≠ { name := "x-1" } := by
  have hfront : ∀ i > 0, ¬ CutAt "-1" i := by
    intro i hi hcut
    have hall : ∀ i < ("-1" : Text).length, 0 < i → ¬ CutAt "-1" i := by decide +kernel
    exact hall i hcut.lt_length hi hcut
  refine ⟨(ofId_exact.2 "x-1" "2-rc").2 (.inr (by decide +kernel)),
    (ofId_exact.2 "-1" []).2 (.inl ⟨rfl, by decide +kernel, hfront⟩), fun h => ?_⟩
  rcases (ofId_exact.2 "x-1" []).1 h with ⟨-, -, hnone⟩ | ⟨hne, -⟩
  · exact hnone 1 (by decide) (by decide +kernel)
  · exact hne rfl

end CastAudit.Package
