import CastAudit.Proofs.Disk.Outside

/-!
# Files in one directory

What a directory lists, what a name in it leads to, and what it lists after a file was saved in it.

* `Path.clean_append_name` — a name behind a clean path;
* `Tree.locate_child` — where a name in a directory leads, if path and name are not too long (`Tree.Fits`);
* `Tree.mem_children`, `Tree.children_put`, `Tree.children_erase` — the names in a directory;
* `Tree.Saved place name bytes t t'` — all that saving a file in a directory does, and `saved_of_ok`: so it does;
* `Tree.Keeps t folder place name bytes` — a name in a directory has a content, and `Saved.keeps_other`: it keeps that
  when another file is saved;
* `located_of_makeDirectories` — a directory that was made is there, and nothing is in it if it was not there before.
-/

namespace CastAudit

/-! ## paths -/

theorem Text.join_concat {sep : Text} {ps : List Text} (hne : ps ≠ []) (p : Text) :
    join sep (ps ++ [p]) = join sep ps ++ (sep ++ p) := by
  induction ps with
  | nil => exact absurd rfl hne
  | cons q ps ih =>
    cases ps with
    | nil => simp [join]
    | cons r ps =>
      have hcons (rest : List Text) : join sep (q :: r :: rest) = q ++ (sep ++ join sep (r :: rest)) := by simp [join]
      have hrest := ih (by simp)
      rw [List.cons_append] at hrest
      rw [List.cons_append, List.cons_append, hcons, hcons, hrest]
      simp

namespace Path

theorem isAbsolute_append {path : Text} (hne : path ≠ []) (rest : Text) : isAbsolute (path ++ rest) = isAbsolute path := by
  obtain ⟨b, path, rfl⟩ := List.exists_cons_of_ne_nil hne
  rfl

/-- A name behind a path that is left with parts is a name behind the clean path. -/
theorem clean_append_name {path name : Text} (hpath : path ≠ []) (hname : IsName name)
    (hstack : (parts path).foldl (pushPart (isAbsolute path)) [] ≠ []) :
    clean (path ++ Text.slash :: name) = clean path ++ Text.slash :: name := by
  have hparts : parts (path ++ Text.slash :: name) = parts path ++ [name] := by
    rw [parts_append, parts_of_no_slash hname.no_slash]
  have hpush (stack : List Text) : pushPart (isAbsolute path) stack name = name :: stack := by
    simp [pushPart, hname.ne_nil, hname.ne_here, hname.ne_above]
  have hclean : clean path = (if isAbsolute path then Text.slash ::
      Text.join [Text.slash] ((parts path).foldl (pushPart (isAbsolute path)) []).reverse else
      if (Text.join [Text.slash] ((parts path).foldl (pushPart (isAbsolute path)) []).reverse).isEmpty then here else
      Text.join [Text.slash] ((parts path).foldl (pushPart (isAbsolute path)) []).reverse) := rfl
  have hstacked := isStack_parts path
  rw [hclean, clean, isAbsolute_append hpath, hparts]
  simp only [List.foldl_append, List.foldl_cons, List.foldl_nil, hpush]
  generalize (parts path).foldl (pushPart (isAbsolute path)) [] = stack at hstack hstacked
  have hjoin := @Text.join_concat [Text.slash] stack.reverse (by simpa using hstack) name
  -- the body is not empty, since its parts are not
  have hbody : (Text.join [Text.slash] stack.reverse).isEmpty = false := by
    rw [List.isEmpty_eq_false_iff]
    intro hnil
    have hsplit := parts_body hstacked
    rw [hnil, parts_nil, if_neg hstack] at hsplit
    obtain ⟨part, rest, rfl⟩ := List.exists_cons_of_ne_nil hstack
    have hmem : part ∈ [([] : Text)] := by
      rw [hsplit]
      simp
    exact (hstacked.part (List.mem_cons_self ..)).1 (List.mem_singleton.1 hmem)
  rw [List.reverse_cons, hjoin, hbody]
  cases isAbsolute path <;> simp

end Path

namespace Disk

namespace Tree

/-! ## names in a directory -/

/-- Neither the name nor the path to it in a folder is too long or otherwise unusable. -/
structure Fits (folder name : Text) : Prop where
  usable : IsUsable (folder ++ Text.slash :: name)
  length : name.length ≤ maxName

section Child

variable {t t' : Tree} {folder name : Text} {place : Place}

/-- What a name in a place leads to. -/
def child (t : Tree) (place : Place) (name : Text) : Target :=
  match t.node? (name :: place) with
  | some node => .present (name :: place) node
  | none => .free place name

/-- Parts that lead to a directory may be followed first. -/
theorem Walk.follow_append {start : Place} {node : Node} {ps qs : List Text}
    (h : t.Walk start node ps place .directory) : t.follow start node (ps ++ qs) = t.follow place .directory qs := by
  generalize hd : Node.directory = d at h
  induction h with
  | stop => rfl
  | stay hpart _ ih => rcases hpart with rfl | rfl <;> simpa [follow] using ih hd
  | up _ ih =>
    rw [List.cons_append, follow]
    simpa using ih hd
  | down hne hhere habove hlen hnext _ ih =>
    rw [List.cons_append, follow]
    simpa [hne, hhere, habove, Nat.not_lt.2 hlen, hnext] using ih hd

/-- **Where a name in a directory leads.** -/
theorem locate_child (hfolder : t.locate folder = .ok (.present place .directory)) (hname : Path.IsName name)
    {target : Target} :
    t.locate (folder ++ Text.slash :: name) = .ok target ↔ Fits folder name ∧ target = t.child place name := by
  obtain ⟨⟨hne, -⟩, hwalk⟩ := locate_eq_present.1 hfolder
  have horigin : t.origin (folder ++ Text.slash :: name) = t.origin folder := by
    rw [origin, origin, Path.isAbsolute_append hne]
  have hparts : Path.parts (folder ++ Text.slash :: name) = Path.parts folder ++ [name] := by
    rw [Path.parts_append, Path.parts_of_no_slash hname.no_slash]
  have hlast : t.follow place .directory [name] =
      if name.length > maxName then .error .nameTooLong else .ok (t.child place name) := by
    rw [follow, child]
    simp only [ne_eq, not_true, if_false, List.isEmpty_iff, hname.ne_nil, beq_iff_eq, hname.ne_here, hname.ne_above,
      Bool.or_eq_true, or_self]
    split
    · rfl
    · cases t.node? (name :: place) <;> rfl
  rw [locate_eq_ok, horigin, hparts, hwalk.follow_append, hlast]
  constructor
  · rintro ⟨husable, h⟩
    split at h
    · cases h
    · next hlong => exact ⟨⟨husable, Nat.le_of_not_gt hlong⟩, (Except.ok.inj h).symm⟩
  · rintro ⟨hfits, rfl⟩
    exact ⟨hfits.usable, by rw [if_neg (Nat.not_lt.2 hfits.length)]⟩

/-- A path to a directory leads there still when something else was put in the place of no directory. -/
theorem Walk.replaced {q start last : Place} {node n : Node} {ps : List Text}
    (hkept : ∀ p m, p ≠ q → t.node? p = some m → t'.node? p = some m) (hq : t.node? q ≠ some .directory)
    (h : t.Walk start node ps last n) (hlast : last ≠ q) : t'.Walk start node ps last n := by
  induction h with
  | stop => exact .stop
  | stay hpart _ ih => exact .stay hpart (ih hlast)
  | up _ ih => exact .up (ih hlast)
  | @down place _ next _ part _ hne hhere habove hlen hnext h ih =>
    have hpass : part :: place ≠ q := by
      intro heq
      have hnode : next ≠ .directory := by
        rintro rfl
        exact hq (heq ▸ hnext)
      obtain ⟨-, rfl, -⟩ := h.eq_of_ne_directory hnode
      exact hlast heq
    exact .down hne hhere habove hlen (hkept _ _ hpass hnext) (ih hlast)

end Child

/-! ## children -/

section Children

variable {t : Tree} {place : Place}

theorem mem_children {e : DirectoryEntry} :
    e ∈ t.children place ↔ ∃ node, (e.name :: place, node) ∈ t.nodes ∧ e.isDirectory = (node == .directory) := by
  unfold children
  rw [List.mem_filterMap]
  constructor
  · rintro ⟨⟨q, node⟩, hmem, h⟩
    cases q with
    | nil => cases h
    | cons name above =>
      simp only at h
      split at h
      · next heq =>
        obtain rfl : above = place := by simpa using heq
        cases h
        exact ⟨node, hmem, rfl⟩
      · cases h
  · rintro ⟨node, hmem, hkind⟩
    refine ⟨_, hmem, ?_⟩
    obtain ⟨name, isDirectory⟩ := e
    simp only at hkind
    simp [hkind]

theorem node?_of_mem_children {e : DirectoryEntry} (h : e ∈ t.children place) :
    (t.node? (e.name :: place)).isSome = true := by
  obtain ⟨node, hmem, -⟩ := mem_children.1 h
  obtain ⟨front, back, hnodes⟩ := List.append_of_mem hmem
  have hlookup : (t.nodes.lookup (e.name :: place)).isSome = true := by
    rw [hnodes, List.lookup_append]
    simp
  exact hlookup

theorem mem_children_of_node? {name : Text} {node : Node} (h : t.node? (name :: place) = some node) :
    ⟨name, node == .directory⟩ ∈ t.children place :=
  mem_children.2 ⟨node, mem_of_node? h, rfl⟩

theorem WellFormed.children_eq_nil (hwf : t.WellFormed) (h : t.node? place = none) : t.children place = [] := by
  rw [List.eq_nil_iff_forall_not_mem]
  intro e he
  have hdir := hwf.rooted e.name place (node?_of_mem_children he)
  rw [h] at hdir
  cases hdir

/-- The nodes that are kept are those of which the names are kept. -/
theorem children_filter (f : Place → Bool) (g : Text → Bool) (hfg : ∀ name, f (name :: place) = g name)
    (nodes : List (Place × Node)) :
    ({ t with nodes := nodes.filter fun e => f e.1 } : Tree).children place =
      (({ t with nodes } : Tree).children place).filter fun e => g e.name := by
  simp only [children, List.filterMap_filter, List.filter_filterMap]
  congr 1
  funext e
  obtain ⟨q, node⟩ := e
  cases q with
  | nil =>
    cases f [] <;> rfl
  | cons name above =>
    by_cases heq : above = place
    · subst heq
      rw [hfg name]
      cases hg : g name <;> simp [Option.filter, hg]
    · simp [heq]

theorem children_put (t : Tree) (name : Text) (place : Place) (node : Node) :
    (t.put (name :: place) node).children place =
      ⟨name, node == .directory⟩ :: (t.children place).filter fun e => e.name != name := by
  have hkeep := @children_filter t place (· != name :: place) (· != name) (by simp [bne]) t.nodes
  have hfirst : (t.put (name :: place) node).children place = ⟨name, node == .directory⟩ ::
      ({ t with nodes := t.nodes.filter fun e => e.1 != name :: place } : Tree).children place := by
    simp [put, children]
  rw [hfirst, hkeep]

theorem children_erase (t : Tree) (name : Text) (place : Place) :
    (t.erase (name :: place)).children place = (t.children place).filter fun e => e.name != name := by
  refine @children_filter t place (fun q => !(name :: place).isSuffixOf q) (· != name) (fun other => ?_) t.nodes
  by_cases heq : other = name
  · simp [heq]
  · have hsuffix : ¬ name :: place <:+ other :: place := by
      intro h
      have hsame := h.eq_of_length (by simp)
      exact heq (List.cons.inj hsame).1.symm
    have hcheck := Bool.eq_false_iff.2 (mt List.isSuffixOf_iff_suffix.1 hsuffix)
    simp [heq, hcheck]

/-- What is put in a place does not stand in it. -/
theorem children_put_self (t : Tree) (place : Place) (node : Node) :
    (t.put place node).children place = t.children place := by
  have hother (name : Text) : (name :: place != place) = true := by simp
  have hkeep := @children_filter t place (· != place) (fun _ => true) hother t.nodes
  rw [List.filter_true] at hkeep
  rw [← show ({ t with nodes := t.nodes } : Tree).children place = t.children place from rfl, ← hkeep]
  cases place with
  | nil => rfl
  | cons name above => simp [put, children]

end Children

/-! ## saved files -/

/-- The tree with a file that was saved in a directory: its name leads to a new content, and all else is as before. -/
structure Saved (place : Place) (name bytes : Text) (t t' : Tree) : Prop where
  replaced : t.node? (name :: place) ≠ some .directory
  nodes : ∀ q, t'.node? q = if q = name :: place then some (.file t.contents.size) else t.node? q
  children : t'.children place = ⟨name, false⟩ :: (t.children place).filter fun e => e.name != name
  size : t'.contents.size = t.contents.size + 1
  content : ∀ n, t'.content n = if n = t.contents.size then bytes else t.content n
  current : t'.current = t.current
  unreadable : t'.unreadable = t.unreadable
  wellFormed : t'.WellFormed

section Saved

variable {t t' made : Tree} {place : Place} {name bytes : Text}

theorem node?_createFile (t : Tree) (place : Place) (content : Text) (q : Place) :
    (t.createFile place content).node? q = if q = place ∧ q ≠ [] then some (.file t.contents.size) else t.node? q :=
  node?_put t place (.file t.contents.size) q

theorem children_createFile (t : Tree) (name : Text) (place : Place) (content : Text) :
    (t.createFile (name :: place) content).children place =
      ⟨name, false⟩ :: (t.children place).filter fun e => e.name != name :=
  children_put t name place (.file t.contents.size)

/-- A file that is written under another name and then renamed is saved under its own. -/
theorem saved_of_renamed (hwf : t.WellFormed) {other : Text} (hother : t.node? (other :: place) = none)
    (hplace : t.node? place = some .directory) (hname : t.node? (name :: place) ≠ some .directory) :
    Saved place name bytes t
      (((t.createFile (other :: place) bytes).erase (other :: place)).put (name :: place) (.file t.contents.size)) := by
  let made := t.createFile (other :: place) bytes
  have hmade : made.WellFormed := hwf.createFile bytes hplace hother
  -- nothing was under the other name, and nothing is after the file has left it
  have herased : ∀ q, (made.erase (other :: place)).node? q = t.node? q := by
    intro q
    rw [node?_erase]
    split
    · next hbelow =>
      cases hq : t.node? q with
      | none => rfl
      | some node =>
        rcases hwf.node?_of_suffix hbelow.2 (by simp [hq]) with heq | hdir
        · rw [heq, hq] at hother
          cases hother
        · rw [hother] at hdir
          cases hdir
    · next hbelow =>
      have hq : ¬ (q = other :: place ∧ q ≠ []) := fun h => hbelow ⟨h.2, h.1 ▸ List.suffix_refl _⟩
      rw [show made = t.createFile (other :: place) bytes from rfl, node?_createFile, if_neg hq]
  have hlisted : (made.erase (other :: place)).children place = t.children place := by
    rw [children_erase, children_createFile, List.filter_cons_of_neg (by simp), List.filter_filter]
    refine List.filter_eq_self.2 fun e he => ?_
    have hname : e.name ≠ other := by
      intro heq
      have hsome := node?_of_mem_children he
      rw [heq, hother] at hsome
      cases hsome
    simp [hname]
  constructor
  case replaced => exact hname
  case nodes =>
    intro q
    rw [node?_put, herased]
    by_cases hq : q = name :: place
    · simp [hq]
    · simp [hq]
  case children => rw [children_put, hlisted]; rfl
  case size => simp [Tree.put, Tree.erase, Tree.createFile]
  case content => exact content_createFile t (other :: place) bytes
  case current => rfl
  case unreadable => rfl
  case wellFormed =>
    refine (hmade.erase (other :: place)).put ?_ (.inl ?_) ?_
    · rw [herased]
      exact hplace
    · rw [herased]
      exact hname
    · intro n hn
      cases hn
      simp [Tree.erase, made, Tree.createFile]

/-- A file is given a name in a directory if the name fits and no directory has it. -/
theorem placeFor_child {folder : Text} (hfolder : t.locate folder = .ok (.present place .directory))
    (hname : Path.IsName name) {q : Place} (h : t.placeFor (folder ++ Text.slash :: name) = .ok q) :
    Fits folder name ∧ q = name :: place ∧ t.node? (name :: place) ≠ some .directory := by
  unfold placeFor at h
  cases hl : t.locate (folder ++ Text.slash :: name) with
  | error w =>
    rw [hl] at h
    cases h
  | ok target =>
    obtain ⟨hfits, rfl⟩ := (locate_child hfolder hname).1 hl
    rw [hl, child] at h
    refine ⟨hfits, ?_⟩
    cases hnode : t.node? (name :: place) with
    | none =>
      rw [hnode] at h
      cases h
      exact ⟨rfl, by simp⟩
    | some node =>
      rw [hnode] at h
      cases node with
      | directory => cases h
      | file | device =>
        cases h
        exact ⟨rfl, by simp⟩

/-- **What saving a file in a directory does.** -/
theorem saved_of_ok (hwf : t.WellFormed) {folder target source : Text}
    (hfolder : t.locate folder = .ok (.present place .directory)) (htarget : target = folder ++ Text.slash :: name)
    (hplace : t.placeOf (Path.directory target) = place) (hname : Path.IsName name)
    (hwrite : t.writeTemporary (Path.directory target) "tmp-" bytes = (.ok source, made))
    (hrename : made.rename source target = (.ok (), t')) : Fits folder name ∧ Saved place name bytes t t' := by
  obtain ⟨k, hk⟩ := t.placeOf_temporaryPath (Path.directory target) (clean_ne_nil _)
  rcases t.writeTemporary_cases (Path.directory target) bytes with ⟨e, he⟩ | ⟨parent, other, hl, hdir, hmade⟩
  · rw [he] at hwrite
    cases hwrite
  · rw [hmade] at hwrite
    cases hwrite
    have hnone := (follow_free (locate_eq_ok.1 hl).2).1
    obtain ⟨rfl, rfl⟩ : other = temporaryName k ∧ parent = place := by
      have hsame := placeOf_of_free hl
      rw [hk, hplace] at hsame
      exact ⟨(List.cons.inj hsame).1.symm, (List.cons.inj hsame).2.symm⟩
    have hextends := extends_createFile hnone bytes
    rcases rename_cases (t.createFile (temporaryName k :: parent) bytes)
        (t.temporaryPath (Path.directory target) "tmp-") target with ⟨e, he⟩ | ⟨old, n, q, hold, hq, -, hok⟩
    · rw [he] at hrename
      cases hrename
    · rw [hok] at hrename
      cases hrename
      rw [htarget] at hq
      obtain ⟨hfits, rfl, hfree⟩ := placeFor_child (hextends.locate hfolder) hname hq
      -- what is renamed is the new file
      obtain rfl : old = temporaryName k :: parent := by
        have hsame := placeOf_of_present hold
        change t.placeOf (t.temporaryPath (Path.directory target) "tmp-") = old at hsame
        rw [← hsame, hk, hplace]
      obtain rfl : n = t.contents.size := by
        have hnode := (locate_eq_present.1 hold).2.node?_last (fun h => absurd rfl h) (by simp)
        rw [node?_createFile, if_pos ⟨rfl, by simp⟩] at hnode
        exact (Node.file.inj (Option.some.inj hnode)).symm
      refine ⟨hfits, saved_of_renamed hwf hnone hdir fun hbefore => ?_⟩
      exact hfree (hextends.nodes _ _ hbefore)

/-- The directory that a file was saved in is where it was. -/
theorem Saved.locate_folder (h : Saved place name bytes t t') {folder : Text}
    (hfolder : t.locate folder = .ok (.present place .directory)) :
    t'.locate folder = .ok (.present place .directory) := by
  obtain ⟨husable, hwalk⟩ := locate_eq_present.1 hfolder
  have hkept : ∀ p m, p ≠ name :: place → t.node? p = some m → t'.node? p = some m := by
    intro p m hp hm
    rw [h.nodes, if_neg hp, hm]
  have horigin : t'.origin folder = t.origin folder := by rw [origin, origin, h.current]
  rw [locate_eq_present, horigin]
  exact ⟨husable, hwalk.replaced hkept h.replaced (by simp)⟩

end Saved

/-- A name in a directory leads to a file that can be read. -/
structure Keeps (t : Tree) (folder : Text) (place : Place) (name bytes : Text) : Prop where
  fits : Fits folder name
  file : ∃ n, t.node? (name :: place) = some (.file n) ∧ t.unreadable.lookup n = none ∧ t.content n = bytes

section Keeps

variable {t t' : Tree} {folder : Text} {place : Place} {name other bytes : Text}

theorem Keeps.readFile (h : t.Keeps folder place name bytes) (hname : Path.IsName name)
    (hfolder : t.locate folder = .ok (.present place .directory)) :
    t.readFile (folder ++ Text.slash :: name) = .ok bytes := by
  obtain ⟨n, hnode, hread, hcontent⟩ := h.file
  have hl := (locate_child hfolder hname).2 ⟨h.fits, rfl⟩
  rw [child, hnode] at hl
  rw [Tree.readFile, hl]
  simp only [hread, hcontent]

theorem readFile_free (hname : Path.IsName name) (hfolder : t.locate folder = .ok (.present place .directory))
    (hfree : t.node? (name :: place) = none) : ∃ e, t.readFile (folder ++ Text.slash :: name) = .error e := by
  cases hl : t.locate (folder ++ Text.slash :: name) with
  | error w =>
    rw [Tree.readFile, hl]
    exact ⟨_, rfl⟩
  | ok target =>
    obtain ⟨-, rfl⟩ := (locate_child hfolder hname).1 hl
    rw [Tree.readFile, hl, child, hfree]
    exact ⟨_, rfl⟩

/-- A saved file can be read, if a new content can. -/
theorem Saved.keeps (h : Saved place name bytes t t') (hfits : Fits folder name)
    (hread : t.unreadable.lookup t.contents.size = none) : t'.Keeps folder place name bytes := by
  refine ⟨hfits, t.contents.size, ?_, ?_, ?_⟩
  · rw [h.nodes, if_pos rfl]
  · rw [h.unreadable, hread]
  · rw [h.content, if_pos rfl]

/-- **A saved file changes no other.** -/
theorem Saved.keeps_other (h : Saved place other bytes t t') (hwf : t.WellFormed) (hne : name ≠ other)
    {content : Text} (hkeeps : t.Keeps folder place name content) : t'.Keeps folder place name content := by
  obtain ⟨n, hnode, hread, hcontent⟩ := hkeeps.file
  have hlt := hwf.numbered _ n hnode
  refine ⟨hkeeps.fits, n, ?_, ?_, ?_⟩
  · rw [h.nodes, if_neg (by simpa using hne), hnode]
  · rw [h.unreadable, hread]
  · rw [h.content, if_neg (by omega), hcontent]

end Keeps

/-! ## new directories -/

section Made

variable {t : Tree} {path : Text}

theorem walk_blank {place : Place} {ps : List Text} (h : ∀ p ∈ ps, p = []) :
    t.Walk place .directory ps place .directory := by
  induction ps with
  | nil => exact .stop
  | cons p ps ih =>
    rw [List.forall_mem_cons] at h
    exact .stay (.inl h.1) (ih h.2)

/-- **A directory that was made is there and empty.** -/
theorem located_of_makeDirectory (hwf : t.WellFormed) (h : (t.makeDirectory path).1 = .ok ()) :
    (t.makeDirectory path).2.locate path = .ok (.present (t.placeOf path) .directory) ∧
      (t.makeDirectory path).2.children (t.placeOf path) = [] := by
  obtain ⟨hnone, -⟩ := makeDirectory_ok h
  have hextends := (grown_makeDirectory t path).extends
  cases hl : t.locate path with
  | error w => simp [makeDirectory, hl] at h
  | ok target =>
    cases target with
    | present place node => simp [makeDirectory, hl] at h
    | free parent name =>
      cases hr : t.refusal? parent with
      | some w => simp [makeDirectory, hl, hr] at h
      | none =>
        have hmade : (t.makeDirectory path).2 = t.put (name :: parent) .directory := by simp [makeDirectory, hl, hr]
        have hnew : (t.put (name :: parent) .directory).node? (name :: parent) = some .directory := by
          rw [node?_put, if_pos ⟨rfl, by simp⟩]
        obtain ⟨husable, hfollow⟩ := locate_eq_ok.1 hl
        obtain ⟨front, back, hparts, hback, hne, hhere, habove, hlen, hwalk⟩ := follow_free_walk hfollow
        rw [hmade] at hextends ⊢
        rw [placeOf_of_free hl] at hnone ⊢
        refine ⟨locate_eq_present.2 ⟨husable, ?_⟩, ?_⟩
        · rw [hparts]
          exact (hwalk.mono hextends.nodes).append (.down hne hhere habove hlen hnew (walk_blank hback))
        · rw [children_put_self, hwf.children_eq_nil hnone]

end Made

end Tree

/-- Nothing is made where a directory is. -/
theorem makeDirectories_of_located {machine : Machine} {path : Text} {place : Place}
    (h : machine.tree.locate path = .ok (.present place .directory)) :
    (makeDirectories path : StateM Machine _).run machine = (.ok (), machine) := by
  have hinspect : (Host.inspect path : StateM Machine _).run machine = (.ok .directory, machine) := by
    have hkind : machine.tree.inspect path = .ok .directory := by rw [Tree.inspect, h]
    rw [← hkind]
    rfl
  rw [makeDirectories, Path.ancestors, makeDirectoriesFrom, Machine.run_seq, hinspect]
  rfl

/-- **Directories that were made are there.** If the last one is new, nothing is in it. -/
theorem located_of_makeDirectories {machine : Machine} {path : Text} (hwf : machine.tree.WellFormed)
    (h : ((makeDirectories path : StateM Machine _).run machine).1 = .ok ()) :
    let after := ((makeDirectories path : StateM Machine _).run machine).2
    after.tree.locate path = .ok (.present (machine.tree.placeOf path) .directory) ∧
      (after = machine ∨ after.tree.children (machine.tree.placeOf path) = []) := by
  intro after
  rcases makeDirectoriesFrom_cases h with ⟨hsame, place, hl⟩ | ⟨t, hgrown, hok, hafter⟩
  · have hafter : after = machine := hsame
    rw [hafter, Tree.placeOf_of_present hl]
    exact ⟨hl, .inl rfl⟩
  · obtain ⟨hlocated, hempty⟩ := Tree.located_of_makeDirectory (hgrown.wellFormed hwf) hok
    have hmade : after.tree = (t.makeDirectory path).2 := hafter
    rw [hgrown.placeOf path] at hlocated hempty
    rw [hmade]
    exact ⟨hlocated, .inr hempty⟩

end Disk

end CastAudit
