import CastAudit.Proofs.Disk.Opening

/-!
# Writing to a path

All results are written the same way: a path is opened, fresh or not, and some bytes are appended.

* `Tree.bytesAt t path` — the bytes of the file at a path;
* `Tree.Written t path fresh bytes t'` — what such a write does;
* `Tree.Written.content` — the content of every file after it, and `Tree.Written.readFile` — nothing more can be read
  elsewhere.
-/

namespace CastAudit.Disk.Tree

/-- The bytes of the file at a path; without a file there are none. -/
def bytesAt (t : Tree) (path : Text) : Text := (t.fileOf? path).elim [] t.content

theorem bytesAt_of_fileOf? {t : Tree} {path : Text} {n : Nat} (h : t.fileOf? path = some n) :
    t.bytesAt path = t.content n := by
  rw [bytesAt, h]
  rfl

/-- What is read from a path are the bytes of its file, and of a device none. -/
theorem bytesAt_of_readFile {t : Tree} {path bytes : Text} (h : t.readFile path = .ok bytes) : t.bytesAt path = bytes := by
  unfold readFile at h
  unfold bytesAt fileOf?
  split at h
  · cases h
  · cases h
  · cases h
  · next hl =>
    split at h
    · cases h
    · cases h
      simp [hl]
  · next hl =>
    cases h
    simp [hl]

/-- Bytes are written to a path, over what was there if `fresh`. -/
def Written (t : Tree) (path : Text) (fresh : Bool) (bytes : Text) (t' : Tree) : Prop :=
  ∃ file t₁, Opened t path fresh file t₁ ∧ t₁.append file bytes = (.ok (), t')

section Written

variable {t t' t₁ : Tree} {path : Text} {fresh : Bool} {bytes : Text} {file : OpenFile}

theorem Opened.node_cases (h : Opened t path fresh file t') :
    (∃ n, file.node = .file n) ∨ ∃ accepts, file.node = .device accepts ∧ ∀ k, t'.content k = t.content k := by
  cases h with
  | found => exact .inl ⟨_, rfl⟩
  | device grown there => exact .inr ⟨_, rfl, grown.content⟩
  | made => exact .inl ⟨_, rfl⟩

theorem append_cases (h : t₁.append file bytes = (.ok (), t')) :
    t' = t₁ ∨ ∃ n content, file.node = .file n ∧ t' = t₁.setContent n content := by
  unfold append at h
  split at h
  · exact .inl (Prod.mk.inj h).2.symm
  · split at h
    · next n hnode => exact .inr ⟨n, _, hnode, (Prod.mk.inj h).2.symm⟩
    · exact .inl (Prod.mk.inj h).2.symm
    · cases h
    · cases h

theorem extends_append (h : t₁.append file bytes = (.ok (), t')) : Extends t₁ t' := by
  rcases append_cases h with rfl | ⟨n, content, -, rfl⟩
  · exact .refl _
  · exact extends_setContent ..

theorem Written.extends (h : Written t path fresh bytes t') : Extends t t' := by
  obtain ⟨file, t₁, hopened, happend⟩ := h
  exact hopened.extends.trans (extends_append happend)

theorem Written.wellFormed (h : Written t path fresh bytes t') (hwf : t.WellFormed) : t'.WellFormed := by
  obtain ⟨file, t₁, hopened, happend⟩ := h
  have hwf₁ := hopened.wellFormed hwf
  rcases append_cases happend with rfl | ⟨n, content, -, rfl⟩
  · exact hwf₁
  · exact hwf₁.setContent ..

/-- **The content of every file after a write.** The file at the path has the bytes behind those that it had, or alone if
it is fresh; all others stay as they were. -/
theorem Written.content (h : Written t path fresh bytes t') (hwf : t.WellFormed) {k : Nat}
    (hk : k < t.contents.size ∨ t'.fileOf? path = some k) :
    t'.content k =
      if t'.fileOf? path = some k then (if fresh then [] else t.bytesAt path) ++ bytes else t.content k := by
  obtain ⟨file, t₁, hopened, happend⟩ := h
  rcases hopened.node_cases with ⟨n, hnode⟩ | ⟨accepts, hnode, hsame⟩
  · have hfile : t₁.fileOf? path = some n := hopened.fileOf? hnode
    have hafter : t'.fileOf? path = some n := (extends_append happend).fileOf? hfile
    have hn : n < t₁.contents.size := (hopened.wellFormed hwf).fileOf?_lt hfile
    have hcontent := (append_file hnode hn bytes).2.content k
    rw [happend] at hcontent
    simp only [hafter, Option.some.injEq, @eq_comm _ n k] at hk ⊢
    rw [hcontent]
    split
    · next heq =>
      subst heq
      rw [hopened.content hwf hnode k (.inr rfl), if_pos rfl]
      -- the file was there before, or there were no bytes
      cases hbefore : t.fileOf? path with
      | none => simp [bytesAt, hbefore]
      | some m =>
        obtain rfl : m = k := Node.file.inj ((hopened.node_of_file hbefore).symm.trans hnode)
        cases fresh <;> simp [bytesAt_of_fileOf? hbefore]
    · next hne =>
      rw [hopened.content hwf hnode k hk, if_neg hne]
  · obtain rfl : t' = t₁ := by
      rcases append_cases happend with h | ⟨n, content, hfile, -⟩
      · exact h
      · rw [hnode] at hfile
        cases hfile
    obtain ⟨place, hl⟩ := hopened.locate
    have hnone : t'.fileOf? path ≠ some k := by
      intro hfile
      obtain ⟨place', hl'⟩ := fileOf?_eq_some.1 hfile
      rw [hl, hnode] at hl'
      cases hl'
    rw [if_neg hnone, hsame]

theorem Written.fileOf? {later : Tree} {n : Nat} (h : t.Written path fresh bytes t') (hextends : Extends t' later)
    (hlater : later.fileOf? path = some n) : t'.fileOf? path = some n := by
  obtain ⟨file, t₁, hopened, happend⟩ := h
  obtain ⟨place, hl⟩ := hopened.locate
  have hl' := (extends_append happend).locate hl
  obtain ⟨place', hl''⟩ := fileOf?_eq_some.1 hlater
  have heq := (hextends.locate hl').symm.trans hl''
  obtain ⟨rfl, hnode⟩ := Target.present.inj (Except.ok.inj heq)
  rw [hnode] at hl'
  exact fileOf?_eq_some.2 ⟨place, hl'⟩

/-- What can be read elsewhere once a path is opened could be read before: opening empties or makes the file at that
path alone. -/
theorem Opened.readFile (h : Opened t path fresh file t') (hwf : t.WellFormed) {other content : Text}
    (hother : Path.IsRoute (Path.parts other)) (hapart : ∀ n, t'.fileOf? path = some n → t'.fileOf? other ≠ some n)
    (hread : t'.readFile other = .ok content) : t.readFile other = .ok content := by
  cases h with
  | @found t₁ n grown there =>
    have hgrown : t₁.readFile other = .ok content := by
      cases fresh with
      | false => exact hread
      | true =>
        exact readFile_of_setContent (hapart n ((grown.extends.trans (extends_setContent ..)).fileOf? there)) hread
    exact readFile_of_grown grown hwf hother hgrown
  | device grown there => exact readFile_of_grown grown hwf hother hread
  | @made t₁ parent name front grown absent free last inside =>
    rcases readFile_createFile (grown.wellFormed hwf) hread with hbefore | ⟨-, hl⟩
    · exact readFile_of_grown grown hwf hother hbefore
    · -- the other path would lead to the new file too
      have hopened : Opened t path fresh ⟨path, .file t.contents.size⟩ (t₁.createFile (name :: parent) []) :=
        .made grown absent free last inside
      rw [grown.contents] at hl
      exact absurd (fileOf?_eq_some.2 ⟨_, hl⟩) (hapart _ (hopened.fileOf? rfl))

/-- **A write reveals nothing elsewhere.** What can be read from another file after it could be read before. -/
theorem Written.readFile (h : Written t path fresh bytes t') (hwf : t.WellFormed) {other content : Text}
    (hother : Path.IsRoute (Path.parts other)) (hapart : ∀ n, t'.fileOf? path = some n → t'.fileOf? other ≠ some n)
    (hread : t'.readFile other = .ok content) : t.readFile other = .ok content := by
  obtain ⟨file, t₁, hopened, happend⟩ := h
  have hextends := extends_append happend
  have hopenedRead : t₁.readFile other = .ok content := by
    rcases append_cases happend with rfl | ⟨n, bytes', hnode, rfl⟩
    · exact hread
    · exact readFile_of_setContent (hapart n (hextends.fileOf? (hopened.fileOf? hnode))) hread
  exact hopened.readFile hwf hother
    (fun n hn hsame => hapart n (hextends.fileOf? hn) (hextends.fileOf? hsame)) hopenedRead

end Written

end CastAudit.Disk.Tree
