import CastAudit.Proofs.Disk.Opening

/-!
# Changes below one place

A file that is saved changes the tree only in the directory that it is saved in, so a path that never comes there
leads where it led before.

* `Tree.SameOutside folder t t'` — the trees differ below one place only;
* `Tree.Avoids t folder path` — the path does not lead below the place, not even on its way;
* `Tree.readFile_of_avoids` — such a path reads the same in both trees;
* `Tree.sameOutside_save` — saving a file is such a change.
-/

namespace CastAudit.Disk.Tree

open CastAudit.Path (placeFrom)

/-- The place is below another one. -/
def Below (folder q : Place) : Prop := folder <:+ q ∧ q ≠ folder

instance (folder q : Place) : Decidable (Below folder q) := inferInstanceAs (Decidable (folder <:+ q ∧ q ≠ folder))

theorem below_cons (folder : Place) (name : Text) : Below folder (name :: folder) :=
  ⟨List.suffix_cons .., by simp⟩

theorem Below.mono {folder place q : Place} (h : Below folder place) (hq : place <:+ q) : Below folder q := by
  refine ⟨h.1.trans hq, ?_⟩
  rintro rfl
  exact h.2 (hq.eq_of_length_le h.1.length_le)

/-- The trees differ below one place only, and new contents have new numbers. -/
structure SameOutside (folder : Place) (t t' : Tree) : Prop where
  nodes : ∀ q, ¬ Below folder q → t'.node? q = t.node? q
  current : t'.current = t.current
  unreadable : t'.unreadable = t.unreadable
  contents : ∀ n < t.contents.size, t'.content n = t.content n

/-- The path never comes below a place. -/
def Avoids (t : Tree) (folder : Place) (path : Text) : Prop :=
  ∀ front ∈ (Path.parts path).inits, ¬ Below folder (placeFrom (t.origin path) front)

instance (t : Tree) (folder : Place) (path : Text) : Decidable (t.Avoids folder path) :=
  inferInstanceAs (Decidable (∀ front ∈ (Path.parts path).inits, ¬ Below folder (placeFrom (t.origin path) front)))

section Reading

variable {folder : Place} {t t' : Tree}

/-- A path leads as far in both trees if they agree on its way. -/
theorem SameOutside.follow (h : SameOutside folder t t') (ps : List Text) : ∀ (place : Place) (node : Node),
    (∀ front, front <+: ps → ¬ Below folder (placeFrom place front)) →
    t'.follow place node ps = t.follow place node ps := by
  induction ps with
  | nil => exact fun _ _ _ => rfl
  | cons part rest ih =>
    intro place node havoid
    have hrest : ∀ front, front <+: rest → ¬ Below folder (placeFrom (Path.stepTo place part) front) :=
      fun front hfront => havoid (part :: front) (List.cons_prefix_cons.2 ⟨rfl, hfront⟩)
    rw [Tree.follow, Tree.follow]
    by_cases hdir : node = .directory
    · by_cases hstay : part = [] ∨ part = Path.here
      · have hstep : Path.stepTo place part = place := by
          rcases hstay with rfl | rfl
          · exact Path.stepTo_nil place
          · exact Path.stepTo_here place
        rw [hstep] at hrest
        rcases hstay with rfl | rfl <;> simp [hdir, ih _ _ hrest]
      · obtain ⟨hne, hhere⟩ := not_or.1 hstay
        by_cases hup : part = Path.above
        · subst hup
          rw [Path.stepTo_above] at hrest
          simp [hdir, ih _ _ hrest]
        · rw [Path.stepTo_name hne hhere hup] at hrest
          have hnode := h.nodes (part :: place) (by simpa using hrest [] List.nil_prefix)
          simp [hdir, hne, hhere, hup, hnode, ih _ _ hrest]
    · simp [hdir]

theorem SameOutside.locate (h : SameOutside folder t t') {path : Text} (havoid : t.Avoids folder path) :
    t'.locate path = t.locate path := by
  have hfollow := h.follow (Path.parts path) (t.origin path) .directory fun front hfront =>
    havoid front ((List.mem_inits ..).2 hfront)
  unfold Tree.locate
  rw [h.current]
  simp only [origin] at hfollow
  rw [hfollow]

/-- **A path that never comes below the place reads the same.** -/
theorem readFile_of_avoids (h : SameOutside folder t t') (hwf : t.WellFormed) {path : Text}
    (havoid : t.Avoids folder path) : t'.readFile path = t.readFile path := by
  unfold readFile
  rw [h.locate havoid]
  cases hl : t.locate path with
  | error w => rfl
  | ok target =>
    cases target with
    | free parent name => rfl
    | present place node =>
      cases node with
      | directory => rfl
      | device accepts => rfl
      | file n =>
        have hn := hwf.fileOf?_lt (fileOf?_eq_some.2 ⟨place, hl⟩)
        simp only [h.unreadable, h.contents n hn]

end Reading

/-! ## saving -/

section Saving

variable (t : Tree)

theorem SameOutside.refl (folder : Place) : SameOutside folder t t := ⟨fun _ _ => rfl, rfl, rfl, fun _ _ => rfl⟩

variable {t} in
theorem SameOutside.erase {folder : Place} {t' : Tree} (h : SameOutside folder t t') {place : Place}
    (hplace : Below folder place) : SameOutside folder t (t'.erase place) where
  nodes q hq := by
    rw [node?_erase, if_neg fun hin => hq (hplace.mono hin.2)]
    exact h.nodes q hq
  current := h.current
  unreadable := h.unreadable
  contents := h.contents

variable {t} in
theorem SameOutside.put {folder : Place} {t' : Tree} (h : SameOutside folder t t') {place : Place}
    (hplace : Below folder place) (node : Node) : SameOutside folder t (t'.put place node) where
  nodes q hq := by
    have hne : ¬ (q = place ∧ q ≠ []) := fun hin => hq (hin.1 ▸ hplace)
    rw [node?_put, if_neg hne]
    exact h.nodes q hq
  current := h.current
  unreadable := h.unreadable
  contents := h.contents

theorem sameOutside_createFile {folder place : Place} (hplace : Below folder place) (content : Text) :
    SameOutside folder t (t.createFile place content) where
  nodes := ((SameOutside.refl t folder).put hplace (.file t.contents.size)).nodes
  current := rfl
  unreadable := rfl
  contents n hn := by rw [content_createFile, if_neg hn.ne]

theorem clean_ne_nil (path : Text) : Path.clean path ≠ [] := by
  unfold Path.clean
  simp only
  split
  · simp
  · split
    · simp
    · next hbody => simpa using hbody

theorem placeOf_clean (path : Text) : t.placeOf (Path.clean path) = t.placeOf path := by
  have horigin : t.origin (Path.clean path) = t.origin path := by rw [origin, origin, Path.isAbsolute_clean]
  rw [placeOf, placeOf, horigin, Path.placeFrom_clean t.origin_of_absolute]

theorem placeOf_append {directory name : Text} (hd : directory ≠ []) (hname : Path.IsName name) :
    t.placeOf (directory ++ Text.slash :: name) = name :: t.placeOf directory := by
  have habsolute : Path.isAbsolute (directory ++ Text.slash :: name) = Path.isAbsolute directory := by
    cases directory with
    | nil => exact absurd rfl hd
    | cons b directory => rfl
  rw [placeOf, placeOf, origin, origin, habsolute, Path.parts_append, Path.parts_of_no_slash hname.no_slash,
    Path.placeFrom_append, Path.placeFrom_cons, Path.placeFrom_nil,
    Path.stepTo_name hname.ne_nil hname.ne_here hname.ne_above]

theorem placeOf_temporaryPath (directory : Text) (hd : directory ≠ []) :
    ∃ k, t.placeOf (t.temporaryPath directory "tmp-") = temporaryName k :: t.placeOf directory := by
  have hpath : ∃ k, t.temporaryPath directory "tmp-" = directory ++ Text.slash :: temporaryName k :=
    ⟨_, by simp [temporaryPath, temporaryName]; rfl⟩
  obtain ⟨k, hk⟩ := hpath
  exact ⟨k, by rw [hk, placeOf_append t hd (isName_temporaryName k)]⟩

variable {t} in
theorem placeOf_of_placeFor {path : Text} {place : Place} (h : t.placeFor path = .ok place) : t.placeOf path = place := by
  unfold placeFor at h
  split at h
  · cases h
  · cases h
  · next hl =>
    cases h
    exact placeOf_of_present hl
  · next hl =>
    cases h
    exact placeOf_of_free hl

theorem remove_eq (path : Text) : t.remove path = t ∨ t.remove path = t.erase (t.placeOf path) := by
  unfold remove
  split
  · next place _ hl =>
    rw [placeOf_of_present hl]
    split
    · exact .inr rfl
    · exact .inl rfl
  · exact .inl rfl

/-- **Saving a file changes nothing outside of its directory.** -/
theorem sameOutside_save {target : Text} (bytes : Text) {folder : Place}
    (hsource : t.placeOf (Path.directory target) = folder) (htarget : Below folder (t.placeOf target)) :
    SameOutside folder t (t.save target bytes) := by
  obtain ⟨k, hk⟩ := t.placeOf_temporaryPath (Path.directory target) (clean_ne_nil _)
  have hinside : Below folder (t.placeOf (t.temporaryPath (Path.directory target) "tmp-")) := by
    rw [hk, hsource]
    exact below_cons _ _
  rcases t.writeTemporary_cases (Path.directory target) bytes with ⟨e, he⟩ | ⟨parent, name, hl, -, hmade⟩
  · simp only [save, he]
    exact .refl t folder
  · have hplace := placeOf_of_free hl
    have hcreated := t.sameOutside_createFile (hplace ▸ hinside) bytes
    simp only [save, hmade]
    -- nothing moves the working directory, so paths keep their places
    have hsame (path : Text) : (t.createFile (name :: parent) bytes).placeOf path = t.placeOf path := rfl
    rcases rename_cases (t.createFile (name :: parent) bytes) (t.temporaryPath (Path.directory target) "tmp-") target
      with ⟨e, he⟩ | ⟨old, n, place, hold, hnew, -, hok⟩
    · simp only [he]
      rcases remove_eq (t.createFile (name :: parent) bytes) (t.temporaryPath (Path.directory target) "tmp-")
        with h | h
      · rw [h]
        exact hcreated
      · rw [h]
        exact hcreated.erase (hsame _ ▸ hinside)
    · simp only [hok]
      have hold' := placeOf_of_present hold
      have hnew' := placeOf_of_placeFor hnew
      rw [hsame] at hold' hnew'
      exact (hcreated.erase (hold' ▸ hinside)).put (hnew' ▸ htarget) _

end Saving

end CastAudit.Disk.Tree
