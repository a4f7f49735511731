import CastAudit.Proofs.Disk.Opening
import CastAudit.Proofs.Disk.Paths
import CastAudit.Proofs.Listing.Grouping
import CastAudit.Proofs.Package.Ids

/-!
# Listings of directories

The listing of a root has one log for each directory in it. A directory is named like its package, so the path of the
log tells the package.

* `Package.no_slash_of_valid` — an id that breaks no rule holds no slash;
* `discover_ok` — the listing of a root is made from different names;
* `exists_entriesAt` — the packages of its logs can be told from their paths, however the root is spelt.
-/

namespace CastAudit

open Disk (Machine Tree)

/-! ## ids -/

theorem firstBroken_eq_nil {owner field : Text} {rules : List (Rule × Bool)} (h : firstBroken owner field rules = []) :
    ∀ r ∈ rules, r.2 = true := by
  unfold firstBroken at h
  split at h
  · cases h
  · next hnone => simpa using hnone

namespace Package

theorem mem_of_mem_trim {id : Text} {b : UInt8} (h : b ∈ Text.trim id) (hb : b ≠ Text.dash) :
    b ∈ (ofId id).name ∨ b ∈ (ofId id).version := by
  rcases ofId_cases id with ⟨hof, -⟩ | ⟨name, version, hof, hsplits⟩
  · rw [hof]
    exact .inl h
  · rw [hsplits.eq, List.mem_append, List.mem_cons] at h
    rw [hof]
    rcases h with h | h | h
    · exact .inl h
    · exact absurd h hb
    · exact .inr h

/-- **An id that breaks no rule** is not blank and holds no slash. -/
theorem no_slash_of_valid {id : Text} (h : (ofId id).brokenRules = []) : id ≠ [] ∧ Text.slash ∉ id := by
  obtain ⟨hname, hnames, hversion⟩ : (ofId id).name ≠ [] ∧ (∀ b ∈ (ofId id).name, isForbidden b = false) ∧
      ∀ b ∈ (ofId id).version, isForbidden b = false := by
    obtain ⟨hrest, -⟩ := List.append_eq_nil_iff.1 h
    obtain ⟨hname, hversion⟩ := List.append_eq_nil_iff.1 hrest
    have := firstBroken_eq_nil hname
    have := firstBroken_eq_nil hversion
    simp_all
  refine ⟨?_, fun hslash => ?_⟩
  · rintro rfl
    exact hname rfl
  · rcases mem_of_mem_trim (Text.mem_trim_of_visible (by decide) (by decide) hslash) (by decide) with hb | hb
    · cases hnames _ hb
    · cases hversion _ hb

end Package

namespace Listing

/-- A directory that may be a package has a name. -/
theorem isName_of_valid {name : Text} (hdot : name.head? ≠ some Text.dot) (h : (Package.ofId name).brokenRules = []) :
    Path.IsName name := by
  obtain ⟨hne, hslash⟩ := Package.no_slash_of_valid h
  refine ⟨hne, ?_, ?_, hslash⟩
  · rintro rfl
    exact hdot rfl
  · rintro rfl
    exact hdot rfl

/-! ## directories -/

theorem ofDirectory_ok {root logName : Text} {found : List Disk.DirectoryEntry} {listing : Listing}
    (h : ofDirectory root logName found = .ok listing) :
    let names := (found.filter fun d => d.isDirectory && d.name.head? != some Text.dot).map Disk.DirectoryEntry.name
    listing = names.map (entryOf root logName) ∧ ∀ name ∈ names, Path.IsName name := by
  have hvisible : ∀ d ∈ found.filter fun d => d.isDirectory && d.name.head? != some Text.dot,
      d.name.head? ≠ some Text.dot := by
    intro d hd
    simpa using (Bool.and_eq_true_iff.1 (List.mem_filter.1 hd).2).2
  have hentries := forall₂_of_mapM h
  clear h
  revert hentries hvisible
  generalize (found.filter fun d => d.isDirectory && d.name.head? != some Text.dot) = directories
  intro hvisible hentries
  induction hentries with
  | nil => simp
  | @cons d e directories listing hd _ ih =>
    rw [List.forall_mem_cons] at hvisible
    obtain ⟨hlisting, hnames⟩ := ih hvisible.2
    simp only at hd
    split at hd
    · next hrules =>
      cases hd
      exact ⟨congrArg (entryOf root logName d.name :: ·) hlisting,
        List.forall_mem_cons.2 ⟨isName_of_valid hvisible.1 hrules, hnames⟩⟩
    · cases hd

/-- The name that a place has in a directory. -/
def nameIn (directory q : Disk.Place) : Option Text := if q.tail == directory then q.head? else none

theorem nameIn_eq_some {directory q : Disk.Place} {name : Text} (h : nameIn directory q = some name) :
    q = name :: directory := by
  unfold nameIn at h
  split at h
  · next habove =>
    rw [← eq_of_beq habove]
    exact (List.cons_head?_tail h).symm
  · cases h

/-- No name is twice in a directory. -/
theorem nodup_children {t : Tree} (h : (t.nodes.map Prod.fst).Nodup) (place : Disk.Place) :
    ((t.children place).map Disk.DirectoryEntry.name).Nodup := by
  have hnames : (t.children place).map Disk.DirectoryEntry.name = (t.nodes.map Prod.fst).filterMap (nameIn place) := by
    rw [Tree.children, List.map_filterMap, List.filterMap_map]
    refine List.filterMap_congr fun e _ => ?_
    obtain ⟨q, node⟩ := e
    cases q with
    | nil => simp [nameIn]
    | cons name above =>
      simp only [nameIn, Function.comp_apply, List.tail_cons, List.head?_cons]
      exact apply_ite (Option.map Disk.DirectoryEntry.name) ..
  rw [hnames]
  refine h.filterMap fun q q' name hq hq' => ?_
  rw [nameIn_eq_some hq, nameIn_eq_some hq']

/-- The listing of a root whose names stand in order. -/
theorem discover_of_sorted {machine : Machine} {root : Text} {place : Disk.Place}
    (hl : machine.tree.locate root = .ok (.present place .directory)) (hnode : (machine.tree.node? place).isSome = true)
    (hsorted : (machine.tree.children place).Pairwise fun a b => (!Text.before b.name a.name) = true) (logName : Text) :
    (discover root logName : StateM Machine _).run machine =
      (ofDirectory root logName (machine.tree.children place), machine) := by
  have hlist : machine.tree.listDirectory root = .ok (machine.tree.children place) := by
    simp only [Tree.listDirectory, hl]
    rw [if_pos hnode, List.mergeSort_of_pairwise hsorted]
  have hrun : (Disk.Host.listDirectory root : StateM Machine _).run machine =
    (machine.tree.listDirectory root, machine) := rfl
  rw [discover, Machine.run_seq, hrun, hlist]
  rfl

/-- **The listing of a root** has one log for each of some different names. -/
theorem discover_ok {machine : Machine} {root logName : Text} {listing : Listing}
    (hdistinct : (machine.tree.nodes.map Prod.fst).Nodup)
    (h : ((discover root logName : StateM Machine _).run machine).1 = .ok listing) :
    root ≠ [] ∧ ∃ names : List Text, listing = names.map (entryOf root logName) ∧ names.Nodup ∧
      ∀ name ∈ names, Path.IsName name := by
  have hlist : (Disk.Host.listDirectory root : StateM Machine _).run machine =
    (machine.tree.listDirectory root, machine) := rfl
  rw [discover, Machine.run_seq, hlist] at h
  cases hfound : machine.tree.listDirectory root with
  | error e =>
    rw [hfound] at h
    cases h
  | ok found =>
    rw [hfound] at h
    obtain ⟨hlisting, hnames⟩ := ofDirectory_ok h
    refine ⟨?_, _, hlisting, ?_, hnames⟩
    · rintro rfl
      cases hfound
    -- a folder tells each of its children once
    · have hperm : ∃ place, found.Perm (machine.tree.children place) := by
        unfold Tree.listDirectory at hfound
        split at hfound
        · cases hfound
        · cases hfound
        · next place _ =>
          split at hfound
          · cases hfound
            exact ⟨place, List.mergeSort_perm ..⟩
          · cases hfound
        · cases hfound
      obtain ⟨place, hperm⟩ := hperm
      have hall := (hperm.map Disk.DirectoryEntry.name).nodup_iff.2 (nodup_children hdistinct place)
      exact hall.sublist (List.filter_sublist.map _)

/-- **The packages of a root are told by the paths of their logs.** -/
theorem exists_entriesAt {machine : Machine} {root logName : Text} {listing : Listing}
    (hdistinct : (machine.tree.nodes.map Prod.fst).Nodup) (hlog : Path.IsName logName)
    (h : ((discover root logName : StateM Machine _).run machine).1 = .ok listing) :
    ∃ paths : List Text, listing = paths.map entryAt ∧ (paths.map packageOfLog).Nodup ∧ ∀ p ∈ paths, p ≠ [] := by
  obtain ⟨hroot, names, rfl, hnodup, hnames⟩ := discover_ok hdistinct h
  have hpackage : ∀ name ∈ names, packageOfLog (Path.join [root, name, logName]) = name ∧
      Path.join [root, name, logName] ≠ [] :=
    fun name hname => Path.name_directory_join hroot (hnames name hname) hlog
  refine ⟨names.map fun name => Path.join [root, name, logName], ?_, ?_, ?_⟩
  · rw [List.map_map]
    refine List.map_congr_left fun name hname => ?_
    rw [Function.comp_apply, entryAt, (hpackage name hname).1, entryOf]
  · have hnames' : (names.map fun name => Path.join [root, name, logName]).map packageOfLog = names := by
      rw [List.map_map]
      conv_rhs => rw [← List.map_id names]
      exact List.map_congr_left fun name hname => (hpackage name hname).1
    rw [hnames']
    exact hnodup
  · intro p hp
    obtain ⟨name, hname, rfl⟩ := List.mem_map.1 hp
    exact (hpackage name hname).2

end Listing

end CastAudit
