import CastAudit.Disk.Machine
import CastAudit.Proofs.Disk.Places

/-!
# Opening a file for appending

A file is opened in two steps: the directory that is to hold it is made if need be, then the file is found or made.

* `Tree.Extends t t'` — the tree `t'` has all that `t` has, so what leads to a file in `t` leads there in `t'`;
* `Tree.Grown t t'` — the tree has more directories and is the same otherwise, which is what making directories does;
* `Tree.Opened t path fresh file t'` — all that opening can do: a file or a device that was there is found, or a file
  is made where nothing was;
* `opened_of_run` — opening does one of these;
* `Tree.Appended t n bytes t'` — what appending to a file does;
* `readFile_of_setContent`, `readFile_of_grown` — what can be read afterwards of other files was there before.
-/

namespace CastAudit

/-! ## answers that may be errors -/

theorem eq_ok_of_toOption {ε α : Type} {x : Except ε α} {a : α} (h : x.toOption = some a) : x = .ok a := by
  cases x with
  | error e => cases h
  | ok b => exact congrArg Except.ok (Option.some.inj h)

/-- What a list is mapped to, if nothing fails. -/
theorem forall₂_of_mapM {ε α β : Type} {f : α → Except ε β} {l : List α} : ∀ {bs : List β}, l.mapM f = .ok bs →
    List.Forall₂ (fun a b => f a = .ok b) l bs := by
  induction l with
  | nil =>
    intro bs h
    cases h
    exact .nil
  | cons a l ih =>
    intro bs h
    rw [List.mapM_cons] at h
    cases ha : f a with
    | error e =>
      rw [ha] at h
      cases h
    | ok b =>
      rw [ha] at h
      cases hl : l.mapM f with
      | error e =>
        rw [hl] at h
        cases h
      | ok rest =>
        rw [hl] at h
        cases h
        exact .cons ha (ih hl)

end CastAudit

namespace CastAudit.Disk

theorem Machine.run_seq {α β : Type} (p : StateM Machine α) (f : α → StateM Machine β) (machine : Machine) :
    (p >>= f).run machine = (f (p.run machine).1).run (p.run machine).2 := rfl

namespace Tree

/-! ## larger trees -/

/-- All that is in a tree is in another. -/
structure Extends (t t' : Tree) : Prop where
  nodes : ∀ q m, t.node? q = some m → t'.node? q = some m
  current : t'.current = t.current
  unreadable : t'.unreadable = t.unreadable
  size : t.contents.size ≤ t'.contents.size

theorem Extends.refl (t : Tree) : Extends t t := ⟨fun _ _ h => h, rfl, rfl, le_rfl⟩

theorem Extends.trans {t t' t'' : Tree} (h : Extends t t') (h' : Extends t' t'') : Extends t t'' where
  nodes q m hq := h'.nodes q m (h.nodes q m hq)
  current := h'.current.trans h.current
  unreadable := h'.unreadable.trans h.unreadable
  size := h.size.trans h'.size

theorem Extends.locate {t t' : Tree} (h : Extends t t') {path : Text} {place : Place} {node : Node}
    (hl : t.locate path = .ok (.present place node)) : t'.locate path = .ok (.present place node) := by
  rw [locate_eq_present] at hl ⊢
  have horigin : t'.origin path = t.origin path := by rw [origin, origin, h.current]
  rw [horigin]
  exact ⟨hl.1, hl.2.mono h.nodes⟩

/-- The number of the file that a path leads to. -/
def fileOf? (t : Tree) (path : Text) : Option Nat :=
  match t.locate path with
  | .ok (.present _ (.file n)) => some n
  | _ => none

theorem fileOf?_eq_some {t : Tree} {path : Text} {n : Nat} :
    t.fileOf? path = some n ↔ ∃ place, t.locate path = .ok (.present place (.file n)) := by
  unfold fileOf?
  constructor
  · intro h
    split at h
    · next place m hl =>
      cases h
      exact ⟨place, hl⟩
    · cases h
  · rintro ⟨place, hl⟩
    rw [hl]

theorem Extends.fileOf? {t t' : Tree} (h : Extends t t') {path : Text} {n : Nat} (hn : t.fileOf? path = some n) :
    t'.fileOf? path = some n := by
  obtain ⟨place, hl⟩ := fileOf?_eq_some.1 hn
  exact fileOf?_eq_some.2 ⟨place, h.locate hl⟩

theorem readFile_of_fileOf? {t : Tree} {path : Text} {n : Nat} (h : t.fileOf? path = some n)
    (hread : t.unreadable.lookup n = none) : t.readFile path = .ok (t.content n) := by
  obtain ⟨place, hl⟩ := fileOf?_eq_some.1 h
  simp [readFile, hl, hread]

theorem WellFormed.fileOf?_lt {t : Tree} (hwf : t.WellFormed) {path : Text} {n : Nat} (h : t.fileOf? path = some n) :
    n < t.contents.size := by
  obtain ⟨place, hl⟩ := fileOf?_eq_some.1 h
  exact hwf.numbered place n ((locate_eq_present.1 hl).2.node?_last (fun h => absurd rfl h) (by simp))

/-! ## contents -/

theorem extends_setContent (t : Tree) (n : Nat) (content : Text) : Extends t (t.setContent n content) :=
  ⟨fun _ _ h => h, rfl, rfl, by simp [setContent]⟩

theorem content_setContent_ne (t : Tree) {n k : Nat} (hk : k ≠ n) (content : Text) :
    (t.setContent n content).content k = t.content k := by
  simp only [Tree.content, setContent, Array.getD_eq_getD_getElem?, Array.getElem?_setIfInBounds_ne (Ne.symm hk)]

theorem content_setContent {t : Tree} {n : Nat} (hn : n < t.contents.size) (content : Text) (k : Nat) :
    (t.setContent n content).content k = if k = n then content else t.content k := by
  split
  · next hk => simp [Tree.content, setContent, Array.getD, hk, hn]
  · next hk => exact content_setContent_ne t hk content

theorem WellFormed.setContent {t : Tree} (h : t.WellFormed) (n : Nat) (content : Text) :
    (t.setContent n content).WellFormed :=
  ⟨h.rooted, fun place k hk => by simpa [Tree.setContent] using h.numbered place k hk⟩

/-- What can be read of other files is not changed with a content. -/
theorem readFile_of_setContent {t : Tree} {n : Nat} {bytes path content : Text}
    (hother : (t.setContent n bytes).fileOf? path ≠ some n)
    (h : (t.setContent n bytes).readFile path = .ok content) : t.readFile path = .ok content := by
  obtain ⟨husable, last, node, hwalk, hgives⟩ := readFile_eq_ok.1 h
  have hsub : ∀ q m, (t.setContent n bytes).node? q = some m → t.node? q = some m := fun _ _ h => h
  refine readFile_eq_ok.2 ⟨husable, last, node, hwalk.mono hsub, ?_⟩
  cases node with
  | directory => exact hgives
  | device accepts => exact hgives
  | file k =>
    have hk : k ≠ n := by
      rintro rfl
      exact hother (fileOf?_eq_some.2 ⟨last, locate_eq_present.2 ⟨husable, hwalk⟩⟩)
    exact ⟨hgives.1, content_setContent_ne t hk bytes ▸ hgives.2⟩

theorem content_createFile (t : Tree) (place : Place) (content : Text) (k : Nat) :
    (t.createFile place content).content k = if k = t.contents.size then content else t.content k := by
  simp only [Tree.content, createFile, Array.getD_eq_getD_getElem?, Array.getElem?_push]
  split <;> rfl

/-! ## new directories -/

/-- The tree has more directories and is the same otherwise. -/
structure Grown (t t' : Tree) : Prop where
  nodes : ∀ q, t'.node? q = t.node? q ∨ (t.node? q = none ∧ t'.node? q = some .directory)
  contents : t'.contents = t.contents
  current : t'.current = t.current
  unreadable : t'.unreadable = t.unreadable
  wellFormed : t.WellFormed → t'.WellFormed

theorem Grown.refl (t : Tree) : Grown t t := ⟨fun _ => .inl rfl, rfl, rfl, rfl, id⟩

theorem Grown.trans {t t' t'' : Tree} (h : Grown t t') (h' : Grown t' t'') : Grown t t'' where
  nodes q := by
    rcases h'.nodes q with h₂ | ⟨hnone, hdir⟩
    · rw [h₂]
      exact h.nodes q
    · rcases h.nodes q with h₁ | ⟨-, h₁⟩
      · exact .inr ⟨h₁ ▸ hnone, hdir⟩
      · rw [h₁] at hnone
        cases hnone
  contents := h'.contents.trans h.contents
  current := h'.current.trans h.current
  unreadable := h'.unreadable.trans h.unreadable
  wellFormed hwf := h'.wellFormed (h.wellFormed hwf)

theorem Grown.extends {t t' : Tree} (h : Grown t t') : Extends t t' where
  nodes q m hq := by
    rcases h.nodes q with hsame | ⟨hnone, -⟩
    · rw [hsame, hq]
    · rw [hq] at hnone
      cases hnone
  current := h.current
  unreadable := h.unreadable
  size := by rw [h.contents]

/-- What is no directory was there before. -/
theorem Grown.node?_before {t t' : Tree} (h : Grown t t') {q : Place} {m : Node} (hq : t'.node? q = some m)
    (hm : m ≠ .directory) : t.node? q = some m := by
  rcases h.nodes q with hsame | ⟨-, hdir⟩
  · rw [← hsame, hq]
  · rw [hq] at hdir
    exact absurd (Option.some.inj hdir) hm

theorem Grown.content {t t' : Tree} (h : Grown t t') (n : Nat) : t'.content n = t.content n := by
  rw [Tree.content, h.contents, Tree.content]

theorem Grown.placeOf {t t' : Tree} (h : Grown t t') (path : Text) : t'.placeOf path = t.placeOf path := by
  rw [Tree.placeOf, Tree.placeOf, origin, origin, h.current]

theorem Walk.suffix_of_names {t : Tree} {place last : Place} {node n : Node} {names : List Text}
    (hnames : ∀ x ∈ names, Path.IsName x) (h : t.Walk place node names last n) : place <:+ last := by
  induction h with
  | stop => exact List.suffix_rfl
  | @stay _ _ _ part _ hpart _ _ =>
    have hname := hnames part (List.mem_cons_self ..)
    exact absurd hpart (not_or.2 ⟨hname.ne_nil, hname.ne_here⟩)
  | up _ _ => exact absurd rfl (hnames _ (List.mem_cons_self ..)).ne_above
  | down _ _ _ _ _ _ ih => exact (List.suffix_cons ..).trans (ih fun x hx => hnames x (List.mem_cons_of_mem _ hx))

/-- **New directories.** A path that goes down leads to no file through them, since nothing was in them. -/
theorem Walk.of_grown {t t' : Tree} (h : Grown t t') (hwf : t.WellFormed) {place last : Place} {node n : Node}
    {names : List Text} (hnames : ∀ x ∈ names, Path.IsName x) (hn : n ≠ .directory)
    (hwalk : t'.Walk place node names last n) : t.Walk place node names last n := by
  induction hwalk with
  | stop => exact .stop
  | @stay _ _ _ part _ hpart _ _ =>
    have hname := hnames part (List.mem_cons_self ..)
    exact absurd hpart (not_or.2 ⟨hname.ne_nil, hname.ne_here⟩)
  | up _ _ => exact absurd rfl (hnames _ (List.mem_cons_self ..)).ne_above
  | @down place last next n part rest hne hhere habove hlen hnext hrest ih =>
    rw [List.forall_mem_cons] at hnames
    rcases h.nodes (part :: place) with hsame | ⟨hnone, hdir⟩
    · exact .down hne hhere habove hlen (hsame ▸ hnext) (ih hnames.2 hn)
    · exfalso
      obtain rfl : next = .directory := Option.some.inj (hnext.symm.trans hdir)
      -- what the path leads to was there before, and so was all above it
      have hlast : t.node? last = some n := h.node?_before (hrest.node?_last (fun h => absurd rfl h) hn) hn
      rcases hwf.node?_of_suffix (hrest.suffix_of_names hnames.2) (by simp [hlast]) with heq | hbefore
      · rw [heq, hlast] at hnone
        cases hnone
      · rw [hnone] at hbefore
        cases hbefore

theorem Walk.of_grown_route {t t' : Tree} (h : Grown t t') (hwf : t.WellFormed) {place last : Place} {node n : Node}
    {ps : List Text} (hps : Path.IsRoute ps) (hn : n ≠ .directory) (hwalk : t'.Walk place node ps last n) :
    t.Walk place node ps last n := by
  obtain ⟨lead, ups, names, rfl, hlead, hnames⟩ := hps
  rw [List.append_assoc] at hwalk ⊢
  induction lead generalizing node with
  | cons p lead ih =>
    rw [List.forall_mem_cons] at hlead
    obtain ⟨rfl, hlead⟩ := hlead
    rw [List.cons_append] at hwalk ⊢
    cases hwalk with
    | stay hpart hrest => exact .stay hpart (ih hrest hlead)
    | down hne => exact absurd rfl hne
  | nil =>
    rw [List.nil_append] at hwalk ⊢
    induction ups generalizing place node with
    | zero => exact hwalk.of_grown h hwf hnames hn
    | succ ups ih =>
      rw [List.replicate_succ, List.cons_append] at hwalk ⊢
      cases hwalk with
      | stay hpart => exact absurd hpart (by decide)
      | up hrest => exact .up (ih hrest)
      | down _ _ habove => exact absurd rfl habove

/-- **New directories make no file readable.** -/
theorem readFile_of_grown {t t' : Tree} (h : Grown t t') (hwf : t.WellFormed) {path content : Text}
    (hpath : Path.IsRoute (Path.parts path)) (hread : t'.readFile path = .ok content) : t.readFile path = .ok content := by
  obtain ⟨husable, last, node, hwalk, hgives⟩ := readFile_eq_ok.1 hread
  have horigin : t'.origin path = t.origin path := by rw [origin, origin, h.current]
  rw [horigin] at hwalk
  refine readFile_eq_ok.2 ⟨husable, last, node, hwalk.of_grown_route h hwf hpath hgives.ne_directory, ?_⟩
  cases node with
  | directory => exact hgives
  | device accepts => exact hgives
  | file n => exact ⟨h.unreadable ▸ hgives.1, h.content n ▸ hgives.2⟩

theorem grown_makeDirectory (t : Tree) (path : Text) : Grown t (t.makeDirectory path).2 := by
  rcases t.makeDirectory_cases path with hm | ⟨place, hfree, htail, hne, hm⟩
  · rw [hm]
    exact .refl t
  · refine ⟨fun q => ?_, by rw [hm]; rfl, by rw [hm]; rfl, by rw [hm]; rfl, fun hwf => wellFormed_makeDirectory hwf path⟩
    rw [hm, node?_put]
    split
    · next hq => exact .inr ⟨hq.1 ▸ hfree, rfl⟩
    · exact .inl rfl

theorem placeOf_of_free {t : Tree} {path : Text} {parent : Place} {name : Text}
    (h : t.locate path = .ok (.free parent name)) : t.placeOf path = name :: parent := by
  obtain ⟨front, back, hparts, hback, hne, hhere, habove, -, hwalk⟩ := follow_free_walk (locate_eq_ok.1 h).2
  rw [placeOf, hparts, Path.placeFrom_append, Path.placeFrom_cons, Path.placeFrom_blank hback, ← hwalk.last_eq,
    Path.stepTo_name hne hhere habove]

theorem placeOf_of_present {t : Tree} {path : Text} {place : Place} {node : Node}
    (h : t.locate path = .ok (.present place node)) : t.placeOf path = place :=
  (locate_eq_present.1 h).2.last_eq.symm

/-- A directory is made where nothing was. -/
theorem makeDirectory_ok {t : Tree} {path : Text} (h : (t.makeDirectory path).1 = .ok ()) :
    t.node? (t.placeOf path) = none ∧ (t.makeDirectory path).2.node? (t.placeOf path) = some .directory := by
  cases hl : t.locate path with
  | error w => simp [makeDirectory, hl] at h
  | ok target =>
    cases target with
    | present place node => simp [makeDirectory, hl] at h
    | free parent name =>
      have hplace := placeOf_of_free hl
      have hnone := (follow_free (locate_eq_ok.1 hl).2).1
      cases hr : t.refusal? parent with
      | some w => simp [makeDirectory, hl, hr] at h
      | none =>
        rw [hplace]
        refine ⟨hnone, ?_⟩
        simp only [makeDirectory, hl, hr, node?_put]
        simp

end Tree

open CastAudit.Disk.Tree

section Directories

variable {machine : Machine}

theorem grown_makeDirectoriesFrom (paths : List Text) (machine : Machine) :
    Grown machine.tree ((makeDirectoriesFrom paths : StateM Machine _).run machine).2.tree := by
  induction paths with
  | nil => exact .refl _
  | cons path above ih =>
    have hinspect : (Host.inspect path : StateM Machine _).run machine = (machine.tree.inspect path, machine) := rfl
    rw [makeDirectoriesFrom, Machine.run_seq, hinspect]
    cases machine.tree.inspect path with
    | ok kind => cases kind <;> exact .refl _
    | error e =>
      simp only [Machine.run_seq]
      generalize (makeDirectoriesFrom above : StateM Machine _).run machine = after at ih ⊢
      obtain ⟨answer, machine'⟩ := after
      cases answer with
      | error e => exact ih
      | ok u => exact ih.trans (grown_makeDirectory machine'.tree path)

/-- The directory of a path was there, and then nothing changed, or it is made after those above it. -/
theorem makeDirectoriesFrom_cases {path : Text} {above : List Text}
    (h : ((makeDirectoriesFrom (path :: above) : StateM Machine _).run machine).1 = .ok ()) :
    let after := ((makeDirectoriesFrom (path :: above) : StateM Machine _).run machine).2
    (after = machine ∧ ∃ place, machine.tree.locate path = .ok (.present place .directory)) ∨
      ∃ t, Grown machine.tree t ∧ (t.makeDirectory path).1 = .ok () ∧ after.tree = (t.makeDirectory path).2 := by
  have hinspect : (Host.inspect path : StateM Machine _).run machine = (machine.tree.inspect path, machine) := rfl
  rw [makeDirectoriesFrom, Machine.run_seq, hinspect] at h ⊢
  cases hi : machine.tree.inspect path with
  | ok kind =>
    rw [hi] at h
    cases kind with
    | other => cases h
    | directory =>
      refine .inl ⟨rfl, ?_⟩
      unfold Tree.inspect at hi
      split at hi
      · cases hi
      · cases hi
      · next place hl => exact ⟨place, hl⟩
      · cases hi
  | error e =>
    rw [hi] at h
    simp only [Machine.run_seq] at h ⊢
    have hgrown := grown_makeDirectoriesFrom above machine
    generalize (makeDirectoriesFrom above : StateM Machine _).run machine = made at hgrown h ⊢
    obtain ⟨answer, machine'⟩ := made
    cases answer with
    | error e => cases h
    | ok u => exact .inr ⟨machine'.tree, hgrown, h, rfl⟩

/-- The directory of a path was there, and then nothing changed, or it is made where nothing was. -/
theorem makeDirectoriesFrom_ok {path : Text} {above : List Text}
    (h : ((makeDirectoriesFrom (path :: above) : StateM Machine _).run machine).1 = .ok ()) :
    let after := ((makeDirectoriesFrom (path :: above) : StateM Machine _).run machine).2
    (after = machine ∧ ∃ place, machine.tree.locate path = .ok (.present place .directory)) ∨
      (machine.tree.node? (machine.tree.placeOf path) = none ∧
        after.tree.node? (machine.tree.placeOf path) = some .directory) := by
  intro after
  rcases makeDirectoriesFrom_cases h with hthere | ⟨t, hgrown, hok, hafter⟩
  · exact .inl hthere
  · -- the last directory is made in the tree that those above it were made in
    obtain ⟨hnone, hdir⟩ := makeDirectory_ok hok
    rw [hgrown.placeOf path] at hnone hdir
    refine .inr ⟨?_, hafter ▸ hdir⟩
    rcases hgrown.nodes (machine.tree.placeOf path) with hsame | ⟨-, hmade⟩
    · rw [← hsame, hnone]
    · rw [hnone] at hmade
      cases hmade

theorem grown_makeParent (path : Text) (machine : Machine) :
    Grown machine.tree ((makeParent path : StateM Machine _).run machine).2.tree := by
  simp only [makeParent]
  split
  · exact .refl _
  · exact grown_makeDirectoriesFrom _ machine

/-- The directory that is to hold a file is the working directory or was there, and then nothing changed, or it is
made where nothing was. -/
theorem makeParent_ok {path : Text} (h : ((makeParent path : StateM Machine _).run machine).1 = .ok ()) :
    let after := ((makeParent path : StateM Machine _).run machine).2
    (after = machine ∧ (Path.directory path = Path.here ∨
        ∃ place, machine.tree.locate (Path.directory path) = .ok (.present place .directory))) ∨
      (machine.tree.node? (machine.tree.placeOf (Path.directory path)) = none ∧
        after.tree.node? (machine.tree.placeOf (Path.directory path)) = some .directory) := by
  simp only [makeParent] at h ⊢
  split
  · next hhere => exact .inl ⟨rfl, .inl (by simpa using hhere)⟩
  · next hhere =>
    rw [if_neg hhere] at h
    rcases makeDirectoriesFrom_ok h with ⟨hsame, hthere⟩ | hmade
    · exact .inl ⟨hsame, .inr hthere⟩
    · exact .inr hmade

end Directories

/-! ## opening -/

namespace Tree

/-- Nothing is at a path. -/
def IsAbsent (t : Tree) (path : Text) : Prop := ∀ place node, t.locate path ≠ .ok (.present place node)

/-- What opening a path for appending can do to a tree. -/
inductive Opened (t : Tree) (path : Text) (fresh : Bool) : OpenFile → Tree → Prop where
  /-- A file that was there is found, and emptied if it is to be fresh. -/
  | found {t₁ : Tree} {n : Nat} (grown : Grown t t₁) (there : t.fileOf? path = some n) :
      Opened t path fresh ⟨path, .file n⟩ (if fresh then t₁.setContent n [] else t₁)
  /-- A device is found. -/
  | device {t₁ : Tree} {accepts : Bool} {place : Place} (grown : Grown t t₁)
      (there : t.locate path = .ok (.present place (.device accepts))) : Opened t path fresh ⟨path, .device accepts⟩ t₁
  /-- A file is made where nothing was. -/
  | made {t₁ : Tree} {parent : Place} {name : Text} {front : List Text} (grown : Grown t t₁) (absent : t.IsAbsent path)
      (free : t₁.locate path = .ok (.free parent name)) (last : Path.parts path = front ++ [name])
      (inside : t₁.node? parent = some .directory) :
      Opened t path fresh ⟨path, .file t.contents.size⟩ (t₁.createFile (name :: parent) [])

section Made

variable {machine : Machine} {path : Text}

/-- **Making directories reveals no file.** If the path of a file led nowhere before its directory was made, its place
was free: either nothing was made, or its directory was not there. -/
theorem locate_before_makeParent (hwf : machine.tree.WellFormed)
    (h : ((makeParent path : StateM Machine _).run machine).1 = .ok ()) {place : Place} {node : Node}
    (hnode : node ≠ .directory)
    (hl : ((makeParent path : StateM Machine _).run machine).2.tree.locate path = .ok (.present place node)) :
    machine.tree.locate path = .ok (.present place node) := by
  have hgrown := grown_makeParent path machine
  rcases makeParent_ok h with ⟨hsame, -⟩ | ⟨hnone, -⟩
  · rwa [hsame] at hl
  · exfalso
    have hwalk := (locate_eq_present.1 hl).2
    have hbefore : machine.tree.node? place = some node :=
      hgrown.node?_before (hwalk.node?_last (fun h => absurd rfl h) hnode) hnode
    -- the path ends in a name, so its place is in the place of its directory
    obtain ⟨x, ps, hparts, -, hplace⟩ := machine.tree.placeOf_directory path
    obtain ⟨front, y, hparts', hne, hhere, habove⟩ := hwalk.last_part hnode
    obtain rfl : x = y := by
      have hsame : ps ++ [x] = front ++ [y] := hparts.symm.trans hparts'
      exact (List.cons.inj (List.append_inj_right' hsame rfl)).1
    have heq : place = x :: machine.tree.placeOf (Path.directory path) := by
      rw [← placeOf_of_present hl, hgrown.placeOf, hplace, Path.stepTo_name hne hhere habove]
    have hdir := hwf.rooted x (machine.tree.placeOf (Path.directory path)) (by rw [← heq, hbefore]; rfl)
    rw [hnone] at hdir
    cases hdir

/-- A path with an empty last part leads to no free name once its directory is made: that directory has the name. -/
theorem last_of_free (h : ((makeParent path : StateM Machine _).run machine).1 = .ok ()) {parent : Place} {name : Text}
    (hl : ((makeParent path : StateM Machine _).run machine).2.tree.locate path = .ok (.free parent name)) :
    ∃ front, Path.parts path = front ++ [name] := by
  have hgrown := grown_makeParent path machine
  have hfollow := (locate_eq_ok.1 hl).2
  obtain ⟨hnone, hlast⟩ := follow_free hfollow
  obtain ⟨x, ps, hsplit, hwhole, hplace⟩ := machine.tree.placeOf_directory path
  by_cases hx : x = []
  -- with slashes at its end the path is its own directory part, which was there before or has been made,
  -- so what stands there is not free
  · exfalso
    subst hx
    obtain ⟨front, back, hparts, hback, hne, hhere, habove, -, -⟩ := follow_free_walk hfollow
    have hmem : name ∈ Path.parts path := by simp [hparts]
    have hname : Path.IsName name := ⟨hne, hhere, habove, Path.no_slash_of_mem_parts hmem⟩
    have hdirectory := hwhole rfl
    obtain ⟨qs, hqs⟩ := Path.parts_clean_of_last hname hback hparts
    have hfree : machine.tree.placeOf (Path.directory path) = name :: parent := by
      rw [← placeOf_of_free hl, hgrown.placeOf, hplace, Path.stepTo_nil]
    rcases makeParent_ok h with ⟨hsame, hcurrent | ⟨place, hthere⟩⟩ | ⟨-, hmade⟩
    · rw [← hdirectory, hcurrent] at hqs
      have heq : [Path.here] = qs ++ [name] := hqs
      cases qs with
      | nil => exact hhere (List.cons.inj heq).1.symm
      | cons q qs => simp at heq
    · have hwalk := (locate_eq_present.1 hthere).2
      rw [hdirectory, hqs] at hwalk
      have hnode := hwalk.node?_of_name hname
      rw [← placeOf_of_present hthere, hfree] at hnode
      rw [hsame, hnode] at hnone
      cases hnone
    · rw [hfree] at hmade
      rw [hmade] at hnone
      cases hnone
  · obtain rfl : name = x := hlast x hx (by simp [hsplit])
    exact ⟨ps, hsplit⟩

end Made

section Opened

variable {t t' : Tree} {path : Text} {fresh : Bool} {file : OpenFile}

/-- **Opening a path** does what `Opened` says. -/
theorem opened_of_run {machine : Machine} (hwf : machine.tree.WellFormed)
    (hmade : ((makeParent path : StateM Machine _).run machine).1 = .ok ())
    (hopen : ((makeParent path : StateM Machine _).run machine).2.tree.openAppend path fresh = (.ok file, t')) :
    Opened machine.tree path fresh file t' := by
  have hgrown := grown_makeParent path machine
  have hbefore {place : Place} {node : Node} := @locate_before_makeParent machine path hwf hmade place node
  have hlast {parent : Place} {name : Text} := @last_of_free machine path hmade parent name
  generalize ((makeParent path : StateM Machine _).run machine).2.tree = t₁ at hgrown hopen hbefore hlast
  unfold openAppend at hopen
  split at hopen
  · cases hopen
  · cases hopen
  · next place n hl =>
    cases hopen
    exact .found hgrown (fileOf?_eq_some.2 ⟨place, hbefore (by simp) hl⟩)
  · next place accepts hl =>
    cases hopen
    exact .device hgrown (hbefore (by simp) hl)
  · next parent name hl =>
    split at hopen
    · cases hopen
    · next hrefusal =>
      cases hopen
      -- what was made on the way are folders, so the file itself is new
      obtain ⟨front, hparts⟩ := hlast hl
      have habsent : machine.tree.IsAbsent path := fun place node hthere => by
        cases hl.symm.trans (hgrown.extends.locate hthere)
      rw [hgrown.contents]
      exact .made hgrown habsent hl hparts (node?_of_refusal hrefusal)

theorem extends_createFile {place : Place} (hnone : t.node? place = none) (content : Text) :
    Extends t (t.createFile place content) where
  nodes q m hq := by
    have hne : ¬ (q = place ∧ q ≠ []) := by
      rintro ⟨rfl, -⟩
      rw [hnone] at hq
      cases hq
    have hput := node?_put t place (.file t.contents.size) q
    rw [if_neg hne] at hput
    exact hput.trans hq
  current := rfl
  unreadable := rfl
  size := by simp [createFile]

theorem Opened.extends (h : Opened t path fresh file t') : Extends t t' := by
  cases h with
  | found grown there =>
    split
    · exact grown.extends.trans (extends_setContent ..)
    · exact grown.extends
  | device grown there => exact grown.extends
  | made grown absent free last inside =>
    exact grown.extends.trans (extends_createFile (follow_free (locate_eq_ok.1 free).2).1 [])

theorem Opened.wellFormed (h : Opened t path fresh file t') (hwf : t.WellFormed) : t'.WellFormed := by
  cases h with
  | found grown there =>
    split
    · exact (grown.wellFormed hwf).setContent ..
    · exact grown.wellFormed hwf
  | device grown there => exact grown.wellFormed hwf
  | made grown absent free last inside =>
    exact (grown.wellFormed hwf).createFile [] inside (follow_free (locate_eq_ok.1 free).2).1

theorem Opened.locate (h : Opened t path fresh file t') : ∃ place, t'.locate path = .ok (.present place file.node) := by
  cases h with
  | @found t₁ n grown there =>
    obtain ⟨place, hl⟩ := fileOf?_eq_some.1 there
    refine ⟨place, ?_⟩
    split
    · exact (grown.extends.trans (extends_setContent ..)).locate hl
    · exact grown.extends.locate hl
  | @device t₁ accepts place grown there => exact ⟨place, grown.extends.locate there⟩
  | @made t₁ parent name front grown absent free last inside =>
    obtain ⟨husable, hfollow⟩ := locate_eq_ok.1 free
    have hnone := (follow_free hfollow).1
    obtain ⟨front', back, hparts, hback, hne, hhere, habove, hlen, hwalk⟩ := follow_free_walk hfollow
    have hextends := extends_createFile hnone []
    -- nothing follows the last name
    obtain rfl : back = [] := by
      rcases List.eq_nil_or_concat back with hnil | ⟨init, p, rfl⟩
      · exact hnil
      · rw [List.concat_eq_append] at hparts hback
        have hlast : (front' ++ name :: init) ++ [p] = front ++ [name] := by
          rw [← last, hparts]
          simp
        have hp : p = name := (List.cons.inj (List.append_inj_right' hlast rfl)).1
        exact absurd (hp ▸ hback p (by simp)) hne
    have hnew : (t₁.createFile (name :: parent) []).node? (name :: parent) = some (.file t₁.contents.size) := by
      have hput := node?_put t₁ (name :: parent) (.file t₁.contents.size) (name :: parent)
      rwa [if_pos ⟨rfl, by simp⟩] at hput
    refine ⟨name :: parent, locate_eq_present.2 ⟨husable, ?_⟩⟩
    rw [hparts, ← grown.contents]
    exact (hwalk.mono hextends.nodes).append (.down hne hhere habove hlen hnew .stop)

theorem Opened.fileOf? (h : Opened t path fresh file t') {n : Nat} (hn : file.node = .file n) :
    t'.fileOf? path = some n := by
  obtain ⟨place, hl⟩ := h.locate
  rw [hn] at hl
  exact fileOf?_eq_some.2 ⟨place, hl⟩

theorem IsAbsent.fileOf? (h : t.IsAbsent path) : t.fileOf? path = none := by
  cases hf : t.fileOf? path with
  | none => rfl
  | some n =>
    obtain ⟨place, hl⟩ := fileOf?_eq_some.1 hf
    exact absurd hl (h place _)

theorem Opened.node_of_file (h : Opened t path fresh file t') {n : Nat} (hn : t.fileOf? path = some n) :
    file.node = .file n := by
  obtain ⟨place, hl⟩ := h.locate
  obtain ⟨place', hl'⟩ := fileOf?_eq_some.1 (h.extends.fileOf? hn)
  rw [hl] at hl'
  exact (Target.present.inj (Except.ok.inj hl')).2

theorem Opened.node_of_absent (h : Opened t path fresh file t') (hnone : t.IsAbsent path) :
    file.node = .file t.contents.size := by
  cases h with
  | found grown there =>
    rw [hnone.fileOf?] at there
    cases there
  | device grown there => exact absurd there (hnone _ _)
  | made => rfl

/-- The content of the file that was opened, and of all others. -/
theorem Opened.content (h : Opened t path fresh file t') (hwf : t.WellFormed) {n : Nat} (hn : file.node = .file n)
    (k : Nat) (hk : k < t.contents.size ∨ k = n) :
    t'.content k = if k = n then (if fresh ∨ t.fileOf? path = none then [] else t.content k) else t.content k := by
  cases h with
  | @found t₁ m grown there =>
    obtain rfl : m = n := Node.file.inj hn
    have hlt := hwf.fileOf?_lt there
    cases fresh with
    | true =>
      simp only [if_true, true_or]
      rw [content_setContent (by rwa [grown.contents]), grown.content]
    | false => simp [grown.content, there]
  | device grown there => cases hn
  | @made t₁ parent name front grown absent free last inside =>
    obtain rfl : t.contents.size = n := Node.file.inj hn
    rw [content_createFile, grown.contents, grown.content, absent.fileOf?]
    simp

end Opened

/-! ## appending -/

/-- The file with a number has some bytes more, and nothing else changed. -/
structure Appended (t : Tree) (n : Nat) (bytes : Text) (t' : Tree) : Prop where
  kept : Extends t t'
  wellFormed : t.WellFormed → t'.WellFormed
  content : ∀ k, t'.content k = if k = n then t.content n ++ bytes else t.content k

theorem append_file {t : Tree} {file : OpenFile} {n : Nat} (hfile : file.node = .file n) (hn : n < t.contents.size)
    (bytes : Text) : (t.append file bytes).1 = .ok () ∧ Appended t n bytes (t.append file bytes).2 := by
  unfold append
  split
  · next hempty =>
    obtain rfl := List.isEmpty_iff.1 hempty
    refine ⟨rfl, .refl t, id, fun k => ?_⟩
    split
    · next hk => rw [hk, List.append_nil]
    · rfl
  · simp only [hfile]
    exact ⟨trivial, extends_setContent .., fun hwf => hwf.setContent .., content_setContent hn _⟩

end Tree

end CastAudit.Disk
