import CastAudit.Text.Basic
import Mathlib.Algebra.BigOperators.Group.List.Lemmas
import Mathlib.Algebra.Ring.Int.Defs
import Mathlib.Data.List.Perm.Basic

/-!
# Lists without repetitions

What `List.eraseDups` keeps: of equal elements the first.

* `nodup_eraseDups`, `eraseDups_of_nodup` — the result has no element twice, and such a list stays as it is;
* `eraseDups_filter` — it does not matter whether elements are left out before or after;
* `sum_count_eraseDups` — the numbers of all elements add up to the length;
* `eraseDups_flatMap` — lists that repeat one element each give as much as these elements;
* `mem_eraseDupsBy_key` — where elements with one key count as equal, the first of each key is kept;
* `lookup_filter` — what is found by its key after some keys are left out.
-/

namespace CastAudit

variable {α β : Type} [BEq β]

theorem eraseDups_induction {motive : List β → Prop} (nil : motive [])
    (cons : ∀ a l, motive (l.filter fun b => !b == a) → motive (a :: l)) (l : List β) : motive l := by
  -- what is left to look at gets shorter
  induction hn : l.length using Nat.strongRecOn generalizing l with
  | _ n ih =>
    cases l with
    | nil => exact nil
    | cons a l =>
      have hle := List.length_filter_le (fun b => !b == a) l
      exact cons a l (ih _ (by simp only [List.length_cons] at hn; omega) _ rfl)

variable [LawfulBEq β]

theorem nodup_eraseDups (l : List β) : l.eraseDups.Nodup := by
  induction l using eraseDups_induction with
  | nil => simp
  | cons a l ih =>
    rw [List.eraseDups_cons, List.nodup_cons]
    exact ⟨by simp [List.mem_eraseDups], ih⟩

theorem eraseDups_of_nodup {l : List β} (h : l.Nodup) : l.eraseDups = l := by
  induction l with
  | nil => rfl
  | cons a l ih =>
    rw [List.nodup_cons] at h
    have hkeep : (l.filter fun b => !b == a) = l := by
      rw [List.filter_eq_self]
      intro b hb
      simpa using ne_of_mem_of_not_mem hb h.1
    rw [List.eraseDups_cons, hkeep, ih h.2]

/-- Leaving elements out and leaving repetitions out commute. -/
theorem eraseDups_filter (p : β → Bool) (l : List β) : (l.filter p).eraseDups = l.eraseDups.filter p := by
  induction l using eraseDups_induction generalizing p with
  | nil => rfl
  | cons a l ih =>
    rw [List.eraseDups_cons, List.filter_cons, List.filter_cons]
    split
    · rw [List.eraseDups_cons, List.filter_filter, ← ih, List.filter_filter]
      simp only [Bool.and_comm]
    · next hp =>
      -- the element left out is none of those kept
      have hsame : l.filter p = (l.filter fun b => !b == a).filter p := by
        rw [List.filter_filter]
        refine List.filter_congr fun b _ => ?_
        by_cases hb : b = a
        · subst hb
          simpa using hp
        · simp [hb]
      rw [hsame, ih]

theorem eraseDups_append_eq (l l' : List β) :
    (l ++ l').eraseDups = l.eraseDups ++ l'.eraseDups.filter fun b => !l.contains b := by
  rw [List.eraseDups_append, ← eraseDups_filter]
  rfl

/-- Every element is counted once, with the first that is equal to it. -/
theorem sum_count_eraseDups (l : List β) : (l.eraseDups.map fun a => (l.count a : Int)).sum = l.length := by
  induction l using eraseDups_induction with
  | nil => rfl
  | cons a l ih =>
    have hothers : ∀ b ∈ (l.filter fun b => !b == a).eraseDups,
        ((a :: l).count b : Int) = ((l.filter fun b => !b == a).count b : Int) := by
      intro b hb
      have hne : b ≠ a := by simpa using (List.mem_filter.1 (List.mem_eraseDups.1 hb)).2
      have hkept : (l.filter fun b => !b == a).count b = l.count b := List.count_filter (by simpa using hne)
      rw [hkept, List.count_cons_of_ne hne.symm]
    have hlength : l.length = l.count a + (l.filter fun b => !b == a).length := by
      rw [← List.countP_eq_length_filter, List.count_eq_countP, List.length_eq_countP_add_countP (· == a)]
      simp
    rw [List.eraseDups_cons, List.map_cons, List.sum_cons, List.map_congr_left hothers, ih, List.count_cons_self,
      List.length_cons]
    omega

/-- Lists that hold nothing but repetitions of one element each give these elements. -/
theorem eraseDups_flatMap (f : α → List β) (g : α → β) (xs : List α) (h : ∀ x ∈ xs, ∀ b ∈ f x, b = g x) :
    (xs.flatMap f).eraseDups = ((xs.filter fun x => !(f x).isEmpty).map g).eraseDups := by
  induction xs with
  | nil => rfl
  | cons x xs ih =>
    rw [List.forall_mem_cons] at h
    rw [List.flatMap_cons, eraseDups_append_eq, ih h.2, List.filter_cons]
    cases hf : f x with
    | nil => simp
    | cons b bs =>
      rw [hf, List.forall_mem_cons] at h
      obtain ⟨⟨rfl, hbs⟩, -⟩ := h
      have hnone : (bs.filter fun b => !b == g x) = [] := by
        rw [List.filter_eq_nil_iff]
        intro b hb
        simp [hbs b hb]
      have hcontains : (fun b => !(g x :: bs).contains b) = fun b => !b == g x := by
        funext b
        by_cases hb : b = g x
        · simp [hb]
        · have hmem : b ∉ bs := fun hmem => hb (hbs b hmem)
          simp [hb, hmem]
      rw [List.eraseDups_cons, hnone, hcontains]
      simp [List.eraseDups_cons, eraseDups_filter]

/-! ## one element for each key -/

section Keys

variable (key : α → β)

theorem eraseDupsBy_key_cons (a : α) (l : List α) :
    (a :: l).eraseDupsBy (fun a b => key a == key b) =
      a :: (l.filter fun b => key b != key a).eraseDupsBy fun a b => key a == key b := by
  rw [List.eraseDupsBy_cons]
  congr 3
  funext b
  by_cases h : key b = key a <;> simp [h]

omit [LawfulBEq β] in
theorem eraseDupsBy_key_induction {motive : List α → Prop} (nil : motive [])
    (cons : ∀ a l, motive (l.filter fun b => key b != key a) → motive (a :: l)) (l : List α) : motive l := by
  -- what is left to choose from gets shorter
  induction hn : l.length using Nat.strongRecOn generalizing l with
  | _ n ih =>
    cases l with
    | nil => exact nil
    | cons a l =>
      have hle := List.length_filter_le (fun b => key b != key a) l
      exact cons a l (ih _ (by simp only [List.length_cons] at hn; omega) _ rfl)

variable {key}

/-- The first element of its key is kept, and no other one. -/
theorem mem_eraseDupsBy_key {l : List α} {a : α} :
    a ∈ l.eraseDupsBy (fun a b => key a == key b) ↔ l.find? (fun b => key b == key a) = some a := by
  induction l using eraseDupsBy_key_induction key with
  | nil => simp
  | cons b l ih =>
    rw [eraseDupsBy_key_cons, List.mem_cons, ih, List.find?_filter]
    by_cases hb : key b = key a
    · have hnone : (l.find? fun c => decide ((key c != key b) = true ∧ (key c == key a) = true)) = none := by
        simp [hb]
      rw [hnone, List.find?_cons_of_pos (by simpa using hb)]
      simp [eq_comm]
    · have hsame : (fun c => decide ((key c != key b) = true ∧ (key c == key a) = true)) = fun c => key c == key a := by
        funext c
        by_cases hc : key c = key a
        · simp [hc, Ne.symm hb]
        · simp [hc]
      have hne : a ≠ b := fun h => hb (h ▸ rfl)
      rw [hsame, List.find?_cons_of_neg (by simpa using hb)]
      simp [hne]

theorem nodup_map_eraseDupsBy_key (l : List α) : ((l.eraseDupsBy fun a b => key a == key b).map key).Nodup := by
  induction l using eraseDupsBy_key_induction key with
  | nil => simp
  | cons a l ih =>
    rw [eraseDupsBy_key_cons, List.map_cons, List.nodup_cons]
    refine ⟨fun hmem => ?_, ih⟩
    obtain ⟨b, hb, hkey⟩ := List.mem_map.1 hmem
    have hkept := List.mem_filter.1 (List.mem_of_find?_eq_some (mem_eraseDupsBy_key.1 hb))
    simp [hkey] at hkept

end Keys

/-! ## lists of entries -/

/-- An entry is found after entries are left out if its key is not one of theirs. -/
theorem lookup_filter {κ : Type} [BEq κ] [LawfulBEq κ] (f : κ → Bool) (entries : List (κ × α)) (key : κ) :
    (entries.filter fun e => f e.1).lookup key = if f key then entries.lookup key else none := by
  induction entries with
  | nil => simp
  | cons e entries ih =>
    obtain ⟨k, a⟩ := e
    by_cases hk : key = k
    · subst hk
      by_cases hf : f key = true <;> simp [hf, ih]
    · have hne : (key == k) = false := by simpa using hk
      by_cases hf : f k = true <;> simp [hf, List.lookup_cons, hne, ih]

end CastAudit
