import CastAudit.Disk.Tree
import CastAudit.Proofs.Disk.Paths
import CastAudit.Proofs.Text.Distinct

/-!
# Trees of files

What can be read from a tree after one of its operations could be read before, or was just written.

* `Tree.WellFormed` — all that is in a tree is in a directory, and a file has a content;
* `Tree.Walk.of_put`, `Tree.Walk.mono` — a path that leads to something in a changed tree leads there in the tree
  before, unless it leads to the change;
* `Tree.readFile_createFile`, `Tree.readFile_save_cases` — after a file was made, or was written under another name and
  then renamed, a path gives what it gave before or the content of that file; `Tree.readFile_save` — a path with a proper
  last name leads to a saved file by no other name.
-/

namespace CastAudit.Disk

namespace Tree

/-- What stands in a tree stands in a directory, and every file has a content. -/
structure WellFormed (t : Tree) : Prop where
  rooted : ∀ name place, (t.node? (name :: place)).isSome = true → t.node? place = some .directory
  numbered : ∀ place n, t.node? place = some (.file n) → n < t.contents.size

/-! ## nodes -/

@[simp] theorem node?_nil (t : Tree) : t.node? [] = some .directory := rfl

theorem mem_of_node? {t : Tree} {name : Text} {place : Place} {node : Node} (h : t.node? (name :: place) = some node) :
    (name :: place, node) ∈ t.nodes := by
  obtain ⟨front, back, hnodes, -⟩ := List.lookup_eq_some_iff.1 h
  simp [hnodes]

/-- It is enough to look at the nodes. -/
theorem wellFormed_of_nodes {t : Tree} (hrooted : ∀ e ∈ t.nodes, t.node? e.1.tail = some .directory)
    (hnumbered : ∀ e ∈ t.nodes, ∀ n, e.2 = .file n → n < t.contents.size) : t.WellFormed where
  rooted name place h := by
    obtain ⟨node, hnode⟩ := Option.isSome_iff_exists.1 h
    exact hrooted _ (mem_of_node? hnode)
  numbered place n h := by
    cases place with
    | nil => cases h
    | cons name place => exact hnumbered _ (mem_of_node? h) n rfl

theorem node?_put (t : Tree) (place : Place) (node : Node) (q : Place) :
    (t.put place node).node? q = if q = place ∧ q ≠ [] then some node else t.node? q := by
  cases q with
  | nil => simp
  | cons name q =>
    have hfilter := lookup_filter (· != place) t.nodes (name :: q)
    by_cases h : name :: q = place
    · simp [node?, put, ← h]
    · have hne : (name :: q == place) = false := by simpa using h
      simp [node?, put, List.lookup_cons, hne, hfilter, h]

theorem node?_erase (t : Tree) (place q : Place) :
    (t.erase place).node? q = if q ≠ [] ∧ place <:+ q then none else t.node? q := by
  cases q with
  | nil => simp
  | cons name q =>
    have hfilter := lookup_filter (fun p => !place.isSuffixOf p) t.nodes (name :: q)
    by_cases h : place <:+ name :: q
    · have hs : place.isSuffixOf (name :: q) = true := List.isSuffixOf_iff_suffix.2 h
      simp [node?, erase, hfilter, h, hs]
    · have hs : place.isSuffixOf (name :: q) = false := by
        simpa [← List.isSuffixOf_iff_suffix] using h
      simp [node?, erase, hfilter, h, hs]

/-! ## following a path -/

/-- The parts of a path lead from what stands at a place to something at another. -/
inductive Walk (t : Tree) : Place → Node → List Text → Place → Node → Prop where
  | stop {place : Place} {node : Node} : Walk t place node [] place node
  | stay {place last : Place} {node : Node} {part : Text} {rest : List Text} (hpart : part = [] ∨ part = Path.here)
      (h : Walk t place .directory rest last node) : Walk t place .directory (part :: rest) last node
  | up {place last : Place} {node : Node} {rest : List Text} (h : Walk t place.tail .directory rest last node) :
      Walk t place .directory (Path.above :: rest) last node
  | down {place last : Place} {next node : Node} {part : Text} {rest : List Text} (hne : part ≠ [])
      (hhere : part ≠ Path.here) (habove : part ≠ Path.above) (hlen : part.length ≤ maxName)
      (hnext : t.node? (part :: place) = some next) (h : Walk t (part :: place) next rest last node) :
      Walk t place .directory (part :: rest) last node

section Follow

variable {t t' : Tree} {ps : List Text} {place last : Place} {node n : Node}

theorem walk_of_follow (h : t.follow place node ps = .ok (.present last n)) : t.Walk place node ps last n := by
  fun_induction follow t place node ps with
  | case1 place node => cases h; exact .stop
  | case2 => cases h
  | case3 place node part rest hdir hstay ih =>
    obtain rfl : node = .directory := by simpa using hdir
    exact .stay (by simpa using hstay) (ih h)
  | case4 place node part rest hdir hstay hup ih =>
    obtain rfl : node = .directory := by simpa using hdir
    obtain rfl : part = Path.above := by simpa using hup
    exact .up (ih h)
  | case5 => cases h
  | case6 place node part rest hdir hstay hup hlong next hnext ih =>
    obtain rfl : node = .directory := by simpa using hdir
    have hpart : part ≠ [] ∧ part ≠ Path.here := by simpa using hstay
    exact .down hpart.1 hpart.2 (by simpa using hup) (Nat.le_of_not_gt hlong) hnext (ih h)
  | case7 => cases h
  | case8 => cases h

theorem follow_of_walk (h : t.Walk place node ps last n) : t.follow place node ps = .ok (.present last n) := by
  induction h with
  | stop => rfl
  | stay hpart _ ih =>
    rcases hpart with rfl | rfl <;> simpa [follow] using ih
  | up _ ih =>
    rw [follow]
    simpa using ih
  | down hne hhere habove hlen hnext _ ih =>
    rw [follow]
    simp [hne, hhere, habove, Nat.not_lt.2 hlen, hnext, ih]

theorem Walk.eq_of_ne_directory (h : t.Walk place node ps last n) (hnode : node ≠ .directory) :
    ps = [] ∧ last = place ∧ n = node := by
  cases h with
  | stop => exact ⟨rfl, rfl, rfl⟩
  | stay | up | down => exact absurd rfl hnode

theorem Walk.mono (hsub : ∀ q m, t.node? q = some m → t'.node? q = some m) (h : t.Walk place node ps last n) :
    t'.Walk place node ps last n := by
  induction h with
  | stop => exact .stop
  | stay hpart _ ih => exact .stay hpart ih
  | up _ ih => exact .up ih
  | down hne hhere habove hlen hnext _ ih => exact .down hne hhere habove hlen (hsub _ _ hnext) ih

/-- **A change at one place.** A path that leads to something leads to the change, or it led there before. -/
theorem Walk.of_put {q : Place} {m : Node} (hm : m ≠ .directory) (h : (t.put q m).Walk place node ps last n) :
    (last = q ∧ n = m) ∨ t.Walk place node ps last n := by
  induction h with
  | stop => exact .inr .stop
  | stay hpart _ ih => exact ih.imp_right (.stay hpart)
  | up _ ih => exact ih.imp_right .up
  | @down place _ _ _ part _ hne hhere habove hlen hnext h ih =>
    rw [node?_put] at hnext
    split at hnext
    · next hq =>
      cases hnext
      obtain ⟨-, rfl, rfl⟩ := h.eq_of_ne_directory hm
      exact .inl ⟨hq.1, rfl⟩
    · exact ih.imp_right (.down hne hhere habove hlen hnext)

/-- What stands at the end of a path is in the tree, unless it is the directory where the path starts. -/
theorem Walk.node?_last (h : t.Walk place node ps last n) (hstart : node ≠ .directory → t.node? place = some node)
    (hn : n ≠ .directory) : t.node? last = some n := by
  induction h with
  | stop => exact hstart hn
  | stay _ _ ih => exact ih (fun h => absurd rfl h) hn
  | up _ ih => exact ih (fun h => absurd rfl h) hn
  | down _ _ _ _ hnext _ ih => exact ih (fun _ => hnext) hn

theorem Walk.last_name {x : Text} (hx : Path.IsName x) (h : t.Walk place node (ps ++ [x]) last n) :
    ∃ above, last = x :: above := by
  generalize hps : ps ++ [x] = parts at h
  induction h generalizing ps with
  | stop => simp at hps
  | @stay _ _ _ part rest hpart h ih =>
    cases ps with
    | nil =>
      obtain ⟨rfl, rfl⟩ : x = part ∧ [] = rest := by simpa using hps
      exact absurd hpart (not_or.2 ⟨hx.ne_nil, hx.ne_here⟩)
    | cons p ps => exact ih (List.cons.inj hps).2
  | up h ih =>
    cases ps with
    | nil => exact absurd (List.cons.inj hps).1 hx.ne_above
    | cons p ps => exact ih (List.cons.inj hps).2
  | @down place _ _ _ part rest _ _ _ _ _ h ih =>
    cases ps with
    | nil =>
      obtain ⟨rfl, rfl⟩ : x = part ∧ [] = rest := by simpa using hps
      cases h
      exact ⟨place, rfl⟩
    | cons p ps => exact ih (List.cons.inj hps).2

/-- A path leads to a free name only by its last part. -/
theorem follow_free {parent : Place} {name : Text} (h : t.follow place node ps = .ok (.free parent name)) :
    t.node? (name :: parent) = none ∧ ∀ x, x ≠ [] → ps.getLast? = some x → name = x := by
  have hlater {part : Text} {rest : List Text} {place : Place} {node : Node}
      (h : t.follow place node rest = .ok (.free parent name))
      (ih : t.node? (name :: parent) = none ∧ ∀ x, x ≠ [] → rest.getLast? = some x → name = x) :
      t.node? (name :: parent) = none ∧ ∀ x, x ≠ [] → (part :: rest).getLast? = some x → name = x := by
    cases rest with
    | nil => cases h
    | cons r rest => simpa using ih
  fun_induction follow t place node ps with
  | case1 => cases h
  | case2 => cases h
  | case3 place node part rest hdir hstay ih => exact hlater h (ih h)
  | case4 place node part rest hdir hstay hup ih => exact hlater h (ih h)
  | case5 => cases h
  | case6 place node part rest hdir hstay hup hlong next hnext ih => exact hlater h (ih h)
  | case7 place node part rest hdir hstay hup hlong hnext hrest =>
    cases h
    refine ⟨hnext, fun x hx hlast => ?_⟩
    cases rest with
    | nil => simpa using hlast
    | cons r rest =>
      have hmem : x ∈ r :: rest := List.mem_of_getLast? (by simpa using hlast)
      exact absurd (List.isEmpty_iff.1 (List.all_eq_true.1 hrest x hmem)) hx
  | case8 => cases h

end Follow

/-! ## reading -/

/-- The content that a node gives to a reader. -/
def Gives (t : Tree) (content : Text) : Node → Prop
  | .directory => False
  | .file n => t.unreadable.lookup n = none ∧ t.content n = content
  | .device _ => content = []

section Read

variable {t t' : Tree} {path content : Text}

theorem Gives.ne_directory {node : Node} (h : t.Gives content node) : node ≠ .directory := by
  rintro rfl
  exact h

/-- A path that can be followed at all. -/
def IsUsable (path : Text) : Prop := path ≠ [] ∧ 0 ∉ path ∧ path.length ≤ maxPath

/-- Where a path starts. -/
def origin (t : Tree) (path : Text) : Place := if Path.isAbsolute path then [] else t.current

theorem locate_eq_ok {target : Target} :
    t.locate path = .ok target ↔
      IsUsable path ∧ t.follow (t.origin path) .directory (Path.parts path) = .ok target := by
  unfold locate IsUsable origin
  by_cases hne : path = []
  · simp [hne]
  · by_cases hzero : 0 ∈ path
    · simp [hne, hzero]
    · by_cases hlen : path.length > maxPath
      · simp [hne, hzero, hlen, Nat.not_le.2 hlen]
      · simp [hne, hzero, hlen, Nat.le_of_not_gt hlen]

theorem locate_eq_present {place : Place} {node : Node} :
    t.locate path = .ok (.present place node) ↔
      IsUsable path ∧ t.Walk (t.origin path) .directory (Path.parts path) place node := by
  rw [locate_eq_ok]
  exact and_congr_right fun _ => ⟨walk_of_follow, follow_of_walk⟩

/-- **What can be read**: the path leads to something that gives a content. -/
theorem readFile_eq_ok :
    t.readFile path = .ok content ↔
      IsUsable path ∧ ∃ place node, t.Walk (t.origin path) .directory (Path.parts path) place node ∧
        t.Gives content node := by
  constructor
  · intro h
    unfold readFile at h
    split at h
    · cases h
    · cases h
    · cases h
    · next place n hl =>
      split at h
      · cases h
      · next hread =>
        obtain ⟨husable, hwalk⟩ := locate_eq_present.1 hl
        cases h
        exact ⟨husable, place, _, hwalk, hread, rfl⟩
    · next place accepts hl =>
      obtain ⟨husable, hwalk⟩ := locate_eq_present.1 hl
      cases h
      exact ⟨husable, place, _, hwalk, rfl⟩
  · rintro ⟨husable, place, node, hwalk, hgives⟩
    have hl := locate_eq_present.2 ⟨husable, hwalk⟩
    unfold readFile
    rw [hl]
    cases node with
    | directory => exact hgives.elim
    | file n =>
      obtain ⟨hread, rfl⟩ := hgives
      simp [hread]
    | device accepts =>
      cases hgives
      rfl

theorem readFile_of_long (hzero : 0 ∉ path) (hlong : maxPath < path.length) :
    t.readFile path = .error (.onPath .opening path .nameTooLong) := by
  have hne : path ≠ [] := by
    rintro rfl
    cases hlong
  have hlocate : t.locate path = .error .nameTooLong := by
    rw [locate, if_neg (by simp [hne]), if_neg (by simpa using hzero), if_pos hlong]
  simp only [readFile, hlocate]

end Read

/-! ## well-formed trees -/

section WellFormed

variable {t : Tree}

theorem WellFormed.node?_of_suffix (h : t.WellFormed) {q place : Place} (hq : q <:+ place)
    (hplace : (t.node? place).isSome = true) : q = place ∨ t.node? q = some .directory := by
  induction place with
  | nil => exact .inl (List.suffix_nil.1 hq)
  | cons name place ih =>
    rcases List.suffix_cons_iff.1 hq with hq | hq
    · exact .inl hq
    · have hdir := h.rooted name place hplace
      rcases ih hq (by simp [hdir]) with rfl | hq
      · exact .inr hdir
      · exact .inr hq

theorem WellFormed.put (h : t.WellFormed) {name : Text} {parent : Place} {node : Node}
    (hparent : t.node? parent = some .directory)
    (hplace : t.node? (name :: parent) ≠ some .directory ∨ node = .directory)
    (hnode : ∀ n, node = .file n → n < t.contents.size) : (t.put (name :: parent) node).WellFormed where
  rooted x p hx := by
    have hself : ¬ (parent = name :: parent ∧ parent ≠ []) := by simp
    rw [node?_put] at hx ⊢
    split at hx
    · next heq =>
      obtain ⟨-, rfl⟩ := List.cons.inj heq.1
      rw [if_neg hself, hparent]
    · have hdir := h.rooted x p hx
      split
      · next heq =>
        rw [heq.1] at hdir
        rw [hplace.resolve_left (not_not.2 hdir)]
      · exact hdir
  numbered p n hp := by
    rw [node?_put] at hp
    split at hp
    · exact hnode n (Option.some.inj hp)
    · exact h.numbered p n hp

theorem WellFormed.erase (h : t.WellFormed) (q : Place) : (t.erase q).WellFormed where
  rooted x p hx := by
    rw [node?_erase] at hx ⊢
    split at hx
    · cases hx
    · next hkeep =>
      rw [if_neg fun hp => hkeep ⟨by simp, hp.2.trans (List.suffix_cons x p)⟩]
      exact h.rooted x p hx
  numbered p n hp := by
    rw [node?_erase] at hp
    split at hp
    · cases hp
    · exact h.numbered p n hp

theorem WellFormed.createFile (h : t.WellFormed) {name : Text} {parent : Place} (content : Text)
    (hparent : t.node? parent = some .directory) (hplace : t.node? (name :: parent) = none) :
    (t.createFile (name :: parent) content).WellFormed := by
  have hgrown : ({ t with contents := t.contents.push content } : Tree).WellFormed :=
    ⟨h.rooted, fun p n hp => by simpa using Nat.lt_succ_of_lt (h.numbered p n hp)⟩
  refine hgrown.put hparent (.inl fun hdir => ?_) fun n hn => ?_
  · cases hplace.symm.trans hdir
  · cases hn
    simp

theorem node?_of_refusal {directory : Place} (h : t.refusal? directory = none) :
    t.node? directory = some .directory := by
  unfold refusal? at h
  split at h
  · assumption
  · cases h

end WellFormed

/-! ## new files -/

theorem no_slash_digitsFrom (fuel n : Nat) :
    ∀ acc : Text, Text.slash ∉ acc → Text.slash ∉ Text.digitsFrom fuel n acc := by
  induction fuel generalizing n with
  | zero => exact fun acc h => h
  | succ fuel ih =>
    intro acc h
    have hdigit : Text.slash ≠ (0x30 + n % 10).toUInt8 := by
      intro heq
      have : 0x2f = (0x30 + n % 10) % 256 := congrArg UInt8.toNat heq
      omega
    have hacc : Text.slash ∉ (0x30 + n % 10).toUInt8 :: acc := by
      simp only [List.mem_cons, not_or]
      exact ⟨hdigit, h⟩
    rw [Text.digitsFrom]
    split
    · exact hacc
    · exact ih (n / 10) _ hacc

section Save

variable {t : Tree} {path content : Text}

/-- In some tree the path leads to something with the name. -/
def LeadsTo (path name : Text) : Prop :=
  ∃ (t : Tree) (above : Place) (node : Node), t.locate path = .ok (.present (name :: above) node)

theorem LeadsTo.eq_of_last {ps : List Text} {x y : Text} (h : LeadsTo path x) (hpath : Path.parts path = ps ++ [y])
    (hy : Path.IsName y) : x = y := by
  obtain ⟨t, above, node, hl⟩ := h
  have hwalk := (locate_eq_present.1 hl).2
  rw [hpath] at hwalk
  obtain ⟨above', hsame⟩ := hwalk.last_name hy
  exact (List.cons.inj hsame).1

/-- **A new file changes nothing else.** A path gives what it gave before, or it leads to the new file and gives its
content. -/
theorem readFile_createFile (hwf : t.WellFormed) {place : Place} {bytes : Text}
    (h : (t.createFile place bytes).readFile path = .ok content) :
    t.readFile path = .ok content ∨
      content = bytes ∧ (t.createFile place bytes).locate path = .ok (.present place (.file t.contents.size)) := by
  obtain ⟨husable, last, node, hwalk, hgives⟩ := readFile_eq_ok.1 h
  have hsub : ∀ q m, (t.createFile place bytes).node? q = some m →
    (t.put place (.file t.contents.size)).node? q = some m := fun _ _ h => h
  rcases (hwalk.mono hsub).of_put (by simp) with ⟨rfl, rfl⟩ | hold
  · refine .inr ⟨?_, locate_eq_present.2 ⟨husable, hwalk⟩⟩
    obtain ⟨-, rfl⟩ := hgives
    simp [Tree.content, Tree.createFile, Array.getD]
  · refine .inl (readFile_eq_ok.2 ⟨husable, last, node, hold, ?_⟩)
    cases node with
    | directory => exact hgives
    | device accepts => exact hgives
    | file n =>
      have hlt := hwf.numbered last n (hold.node?_last (fun h => absurd rfl h) (by simp))
      have hcontent : (t.createFile place bytes).content n = t.content n := by
        simp [Tree.content, Tree.createFile, Array.getD, hlt, Nat.lt_succ_of_lt hlt, Array.getElem_push_lt]
      exact ⟨hgives.1, hcontent ▸ hgives.2⟩

/-- The name of a temporary file. -/
abbrev temporaryName (k : Nat) : Text := "tmp-" ++ Text.ofNat k

theorem isName_temporaryName (k : Nat) : Path.IsName (temporaryName k) where
  ne_nil := by simp [temporaryName, show ("tmp-" : Text) ≠ [] by decide]
  ne_here h := by cases h
  ne_above h := by cases h
  no_slash := by
    rw [temporaryName, List.mem_append, not_or]
    exact ⟨by decide, no_slash_digitsFrom _ _ [] (by simp)⟩

theorem parts_temporaryPath (t : Tree) (directory : Text) :
    ∃ k, Path.parts (t.temporaryPath directory "tmp-") = Path.parts directory ++ [temporaryName k] := by
  have hpath : ∃ k, t.temporaryPath directory "tmp-" = directory ++ Text.slash :: temporaryName k :=
    ⟨_, by simp [temporaryPath, temporaryName]; rfl⟩
  obtain ⟨k, hk⟩ := hpath
  exact ⟨k, by rw [hk, Path.parts_append, Path.parts_of_no_slash (isName_temporaryName k).no_slash]⟩

theorem writeTemporary_cases (t : Tree) (directory bytes : Text) :
    (∃ e, t.writeTemporary directory "tmp-" bytes = (.error e, t)) ∨
      ∃ parent name, t.locate (t.temporaryPath directory "tmp-") = .ok (.free parent name) ∧
        t.node? parent = some .directory ∧
        t.writeTemporary directory "tmp-" bytes =
          (.ok (t.temporaryPath directory "tmp-"), t.createFile (name :: parent) bytes) := by
  unfold writeTemporary
  simp only
  split
  · exact .inl ⟨_, rfl⟩
  · exact .inl ⟨_, rfl⟩
  · next parent name hl =>
    split
    · exact .inl ⟨_, rfl⟩
    · next hr => exact .inr ⟨parent, name, hl, node?_of_refusal hr, rfl⟩

theorem rename_cases (t : Tree) (source target : Text) :
    (∃ e, t.rename source target = (.error e, t)) ∨
      ∃ old n place, t.locate source = .ok (.present old (.file n)) ∧ t.placeFor target = .ok place ∧
        t.node? place.tail = some .directory ∧
        t.rename source target = (.ok (), (t.erase old).put place (.file n)) := by
  unfold rename
  split
  · next old n hl =>
    split
    · exact .inl ⟨_, rfl⟩
    · next place hp =>
      split
      · exact .inl ⟨_, rfl⟩
      · next hr =>
        have hplace : t.refusal? place.tail = none := by
          cases ho : t.refusal? old.tail <;> simp [ho] at hr
          exact hr
        exact .inr ⟨old, n, place, hl, hp, node?_of_refusal hplace, rfl⟩
  · exact .inl ⟨_, rfl⟩
  · exact .inl ⟨_, rfl⟩

theorem remove_cases (t : Tree) (path : Text) : t.remove path = t ∨ ∃ place, t.remove path = t.erase place := by
  unfold remove
  split
  · next place _ _ =>
    split
    · exact .inr ⟨place, rfl⟩
    · exact .inl rfl
  · exact .inl rfl

/-- A file is put under the last name of its path, where no directory stands. -/
theorem placeFor_eq_ok {target : Text} {ps : List Text} {x : Text} (htarget : Path.parts target = ps ++ [x])
    (hx : Path.IsName x) {place : Place} (h : t.placeFor target = .ok place) :
    ∃ above, place = x :: above ∧ t.node? place ≠ some .directory := by
  unfold placeFor at h
  cases hl : t.locate target with
  | error w =>
    rw [hl] at h
    cases h
  | ok found =>
    rw [hl] at h
    cases found with
    -- a file to be made
    | free parent name =>
      cases h
      obtain ⟨hnone, hname⟩ := follow_free (locate_eq_ok.1 hl).2
      obtain rfl := hname x hx.ne_nil (by simp [htarget])
      exact ⟨parent, rfl, fun hdir => by cases hnone.symm.trans hdir⟩
    -- a file or a device to be replaced
    | present q node =>
      have hne : node ≠ .directory := by
        rintro rfl
        cases h
      obtain rfl : q = place := by
        cases node with
        | directory => exact absurd rfl hne
        | file | device => exact Except.ok.inj h
      have hwalk := walk_of_follow (locate_eq_ok.1 hl).2
      have hlast := hwalk.node?_last (fun h => absurd rfl h) hne
      rw [htarget] at hwalk
      obtain ⟨above, rfl⟩ := hwalk.last_name hx
      exact ⟨above, rfl, fun hdir => hne (Option.some.inj (hlast.symm.trans hdir))⟩

/-- The tree after a file was written under another name and renamed, or removed when that failed. -/
def save (t : Tree) (target bytes : Text) : Tree :=
  match t.writeTemporary (Path.directory target) "tmp-" bytes with
  | (.error _, t) => t
  | (.ok source, t) =>
    match t.rename source target with
    | (.ok (), t) => t
    | (.error _, t) => t.remove source

/-- What can become of a tree when a file is saved: nothing, an attempt that is taken back or not, or the new file. -/
theorem save_cases (t : Tree) (target bytes : Text) :
    t.save target bytes = t ∨
      ∃ k parent, t.node? (temporaryName k :: parent) = none ∧ t.node? parent = some .directory ∧
        let made := t.createFile (temporaryName k :: parent) bytes
        (t.save target bytes = made ∨ (∃ place, t.save target bytes = made.erase place) ∨
          ∃ place, made.placeFor target = .ok place ∧ made.node? place.tail = some .directory ∧
            t.save target bytes =
              (made.erase (temporaryName k :: parent)).put place (.file t.contents.size)) := by
  obtain ⟨k, hparts⟩ := t.parts_temporaryPath (Path.directory target)
  rcases t.writeTemporary_cases (Path.directory target) bytes with ⟨e, he⟩ | ⟨parent, name, hl, hdir, hmade⟩
  · exact .inl (by simp [save, he])
  · obtain ⟨husable, hfollow⟩ := locate_eq_ok.1 hl
    obtain ⟨hnone, hname⟩ := follow_free hfollow
    obtain rfl := hname (temporaryName k) (isName_temporaryName k).ne_nil (by simp [hparts])
    refine .inr ⟨k, parent, hnone, hdir, ?_⟩
    simp only [save, hmade]
    rcases (t.createFile (temporaryName k :: parent) bytes).rename_cases
      (t.temporaryPath (Path.directory target) "tmp-") target with ⟨e, he⟩ | ⟨old, n, place, hold, hplace, htail, hok⟩
    · simp only [he]
      rcases remove_cases (t.createFile (temporaryName k :: parent) bytes)
        (t.temporaryPath (Path.directory target) "tmp-") with h | ⟨place, h⟩
      · exact .inl h
      · exact .inr (.inl ⟨place, h⟩)
    · -- what is renamed is the new file, since nothing else had its name
      obtain ⟨rfl, rfl⟩ : old = temporaryName k :: parent ∧ n = t.contents.size := by
        have hsub : ∀ q m, (t.createFile (temporaryName k :: parent) bytes).node? q = some m →
          (t.put (temporaryName k :: parent) (.file t.contents.size)).node? q = some m := fun _ _ h => h
        have hwalk := (walk_of_follow (locate_eq_ok.1 hold).2).mono hsub
        rcases hwalk.of_put (by simp) with ⟨hq, hn⟩ | hbefore
        · exact ⟨hq, Node.file.inj hn⟩
        · cases hfollow.symm.trans (follow_of_walk hbefore)
      exact .inr (.inr ⟨place, hplace, htail, by simp [hok]⟩)

theorem readFile_erase {place : Place} (h : (t.erase place).readFile path = .ok content) :
    t.readFile path = .ok content := by
  obtain ⟨husable, last, node, hwalk, hgives⟩ := readFile_eq_ok.1 h
  have hsub : ∀ q m, (t.erase place).node? q = some m → t.node? q = some m := fun q m hq => by
    rw [node?_erase] at hq
    split at hq
    · cases hq
    · exact hq
  exact readFile_eq_ok.2 ⟨husable, last, node, hwalk.mono hsub, hgives⟩

/-- **A saved file changes nothing else.** A path gives what it gave before, or it gives the content of the saved file,
to which it leads by its temporary or by its own name. -/
theorem readFile_save_cases (hwf : t.WellFormed) {target bytes : Text} {ps : List Text} {x : Text}
    (htarget : Path.parts target = ps ++ [x]) (hx : Path.IsName x)
    (h : (t.save target bytes).readFile path = .ok content) :
    t.readFile path = .ok content ∨
      content = bytes ∧ ((∃ k, LeadsTo path (temporaryName k)) ∨ LeadsTo path x) := by
  rcases t.save_cases target bytes with hs | ⟨k, parent, hnone, hdir, hs⟩
  · exact .inl (hs ▸ h)
  · have hmade {c : Text} (hc : (t.createFile (temporaryName k :: parent) bytes).readFile path = .ok c) :
        t.readFile path = .ok c ∨ c = bytes ∧ ((∃ k, LeadsTo path (temporaryName k)) ∨ LeadsTo path x) :=
      (readFile_createFile hwf hc).imp_right fun ⟨hbytes, hl⟩ => ⟨hbytes, .inl ⟨k, _, parent, _, hl⟩⟩
    rcases hs with hs | ⟨place, hs⟩ | ⟨place, hplace, htail, hs⟩
    · exact hmade (hs ▸ h)
    · exact hmade (readFile_erase (hs ▸ h))
    · obtain ⟨above, rfl, -⟩ := placeFor_eq_ok htarget hx hplace
      rw [hs] at h
      obtain ⟨husable, last, node, hwalk, hgives⟩ := readFile_eq_ok.1 h
      rcases hwalk.of_put (by simp) with ⟨rfl, rfl⟩ | hbefore
      · refine .inr ⟨?_, .inr ⟨_, above, _, locate_eq_present.2 ⟨husable, hwalk⟩⟩⟩
        obtain ⟨-, rfl⟩ := hgives
        simp [Tree.content, Tree.put, Tree.erase, Tree.createFile, Array.getD]
      · exact hmade (readFile_erase (readFile_eq_ok.2 ⟨husable, last, node, hbefore, hgives⟩))

/-- A path with a proper last name leads to the saved file only if it has that name. -/
theorem readFile_save (hwf : t.WellFormed) {target bytes : Text} {ps qs : List Text} {x y : Text}
    (htarget : Path.parts target = ps ++ [x]) (hx : Path.IsName x)
    (hpath : Path.parts path = qs ++ [y]) (hy : Path.IsName y) (htemporary : ∀ k, temporaryName k ≠ y)
    (h : (t.save target bytes).readFile path = .ok content) :
    t.readFile path = .ok content ∨ (y = x ∧ content = bytes) := by
  refine (readFile_save_cases hwf htarget hx h).imp_right fun ⟨hbytes, hleads⟩ => ?_
  rcases hleads with ⟨k, hleads⟩ | hleads
  · exact absurd (hleads.eq_of_last hpath hy) (htemporary k)
  · exact ⟨(hleads.eq_of_last hpath hy).symm, hbytes⟩

theorem wellFormed_save (hwf : t.WellFormed) {target : Text} (bytes : Text) {ps : List Text} {x : Text}
    (htarget : Path.parts target = ps ++ [x]) (hx : Path.IsName x) : (t.save target bytes).WellFormed := by
  rcases t.save_cases target bytes with hs | ⟨k, parent, hnone, hdir, hs⟩
  · rwa [hs]
  · have hmade := hwf.createFile bytes hdir hnone
    rcases hs with hs | ⟨place, hs⟩ | ⟨place, hplace, htail, hs⟩
    · exact hs ▸ hmade
    · exact hs ▸ hmade.erase place
    · obtain ⟨above, rfl, hfree⟩ := placeFor_eq_ok htarget hx hplace
      rw [hs]
      -- the directory of the saved file is not below the temporary one
      have hkeep : ¬ (above ≠ [] ∧ temporaryName k :: parent <:+ above) := by
        rintro ⟨-, hsuffix⟩
        have hfile : (t.createFile (temporaryName k :: parent) bytes).node? (temporaryName k :: parent) =
            some (.file t.contents.size) := by
          have := node?_put t (temporaryName k :: parent) (.file t.contents.size) (temporaryName k :: parent)
          rwa [if_pos ⟨rfl, by simp⟩] at this
        rcases hmade.node?_of_suffix hsuffix (by simpa using congrArg Option.isSome htail) with heq | hd
        · rw [List.tail_cons, ← heq, hfile] at htail
          cases htail
        · rw [hfile] at hd
          cases hd
      refine (hmade.erase _).put ?_ (.inl ?_) ?_
      · rw [node?_erase, if_neg hkeep]
        exact htail
      · rw [node?_erase]
        split
        · simp
        · exact hfree
      · intro n hn
        cases hn
        simp [Tree.erase, Tree.createFile]

/-! ## new directories -/

theorem makeDirectory_cases (t : Tree) (path : Text) :
    (t.makeDirectory path).2 = t ∨
      ∃ place, t.node? place = none ∧ t.node? place.tail = some .directory ∧ place ≠ [] ∧
        (t.makeDirectory path).2 = t.put place .directory := by
  unfold makeDirectory
  split
  · exact .inl rfl
  · exact .inl rfl
  · next parent name hl =>
    split
    · exact .inl rfl
    · next hr =>
      exact .inr ⟨name :: parent, (follow_free (locate_eq_ok.1 hl).2).1, node?_of_refusal hr, by simp, rfl⟩

theorem wellFormed_makeDirectory (hwf : t.WellFormed) (made : Text) : (t.makeDirectory made).2.WellFormed := by
  rcases t.makeDirectory_cases made with hm | ⟨place, hfree, htail, hne, hm⟩
  · rwa [hm]
  · obtain ⟨name, parent, rfl⟩ := List.exists_cons_of_ne_nil hne
    rw [hm]
    exact hwf.put htail (.inr rfl) (by simp)

end Save

end Tree

end CastAudit.Disk
