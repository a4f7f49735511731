import CastAudit.Proofs.Disk.Folders
import CastAudit.Proofs.Run.Visiting
import Mathlib.Logic.Function.Basic

/-!
# A cache is a map

However a cache is used, what it gives for a key is what was last put there. The memory forgets and is filled again from
the files, but what it has is what the map has, and so is what the files have; a cache that is opened again starts with
the files alone.

* `Use`, `Live.step`, `play` — a history of puts, gets and openings, on a machine;
* `mapOf` — the map that a history leaves, told from the puts alone;
* `Remembers map recent` — the memory has nothing but what the map has, and no more than it may;
* `Backs directory place map t` — the folder has one file for each key of the map, with its entry, and nothing else;
* `Refines` — both together, which a step keeps (`Refines.step`) and so does a history (`Refines.play`);
* `play_refines_map` — gets answer as the map does.
-/

namespace CastAudit.Cache

open Disk (Machine Tree Place DirectoryEntry)
open Run (Serial)

/-! ## operations on a machine -/

/-- The number of entries that a memory may have when a capacity is asked for. -/
def room (capacity : Int) : Nat := if capacity ≤ 0 then defaultCapacity else capacity.toNat

section Runs

variable {c c' : Cache} {machine machine' : Machine} {directory key : Text} {entry : Entry}

theorem openAt_ok {capacity : Int} (h : (openAt directory capacity : StateM Machine _).run machine = (.ok c, machine')) :
    c = ⟨directory, { capacity := room capacity }⟩ ∧ (directory = [] ∧ machine' = machine ∨ directory ≠ [] ∧
      (Disk.makeDirectories (folder directory) : StateM Machine _).run machine = (.ok (), machine')) := by
  unfold openAt at h
  simp only at h
  split at h
  · next hd =>
    cases h
    exact ⟨rfl, .inl ⟨List.isEmpty_iff.1 hd, rfl⟩⟩
  · next hd =>
    rw [Machine.run_seq] at h
    cases hmade : (Disk.makeDirectories (folder directory) : StateM Machine _).run machine with
    | mk answer made =>
      rw [hmade] at h
      cases answer with
      | error e => cases h
      | ok u =>
        cases h
        exact ⟨rfl, .inr ⟨by simpa using hd, rfl⟩⟩

theorem run_seq {α β : Type} (p : Serial α) (f : α → Serial β) (recent : Recent Entry) (machine : Machine) :
    ((p >>= f).run recent).run machine =
      ((f ((p.run recent).run machine).1.1).run ((p.run recent).run machine).1.2).run ((p.run recent).run machine).2 :=
  rfl

theorem run_serve {α : Type} (c : Cache) (program : Serial α) (machine : Machine) :
    (c.serve program : StateM Machine _).run machine =
      let after := (program.run c.recent).run machine
      ((after.1.1, { c with recent := after.1.2 }), after.2) := rfl

theorem run_fetch (key : Text) (recent : Recent Entry) (machine : Machine) :
    ((Shared.fetch key : Serial _).run recent).run machine =
      ((recent.value? key, (recent.value? key).elim recent (recent.touch key)), machine) := rfl

theorem run_readFile (path : Text) (recent : Recent Entry) (machine : Machine) :
    ((Disk.Host.readFile path : Serial _).run recent).run machine =
      ((machine.tree.readFile path, recent), machine) := rfl

/-! A get is answered by the memory or, without an entry there, by the file of its key. -/

theorem get_of_recalled (h : c.recent.value? key = some entry) :
    (c.get key : StateM Machine _).run machine =
      ((.ok (some entry), { c with recent := c.recent.touch key entry }), machine) := by
  rw [get, run_serve, lookUp, run_seq, run_fetch, h]
  rfl

theorem get_of_memory (h : c.recent.value? key = none) (hd : c.directory = []) :
    (c.get key : StateM Machine _).run machine = ((.ok none, c), machine) := by
  obtain ⟨directory, recent⟩ := c
  obtain rfl : directory = [] := hd
  rw [get, run_serve, lookUp, run_seq, run_fetch, h]
  rfl

theorem get_of_error (h : c.recent.value? key = none) (hd : c.directory ≠ []) {e : Disk.Error}
    (hread : machine.tree.readFile (fileOf c.directory key) = .error e) :
    (c.get key : StateM Machine _).run machine =
      ((if e.isMissing then .ok none else .error (.file e), c), machine) := by
  have hempty : c.directory.isEmpty = false := by simpa using hd
  rw [get, run_serve, lookUp, run_seq, run_fetch, h]
  simp only [Option.elim_none, hempty, Bool.false_eq_true, if_false]
  rw [run_seq, run_readFile, hread]
  rfl

theorem get_of_file (h : c.recent.value? key = none) (hd : c.directory ≠ []) {bytes : Text}
    (hread : machine.tree.readFile (fileOf c.directory key) = .ok bytes) (hunpack : Entry.unpack? bytes = some entry)
    (hschema : entry.schema = schemaVersion) :
    (c.get key : StateM Machine _).run machine =
      ((.ok (some entry), { c with recent := c.recent.touch key entry }), machine) := by
  have hempty : c.directory.isEmpty = false := by simpa using hd
  rw [get, run_serve, lookUp, run_seq, run_fetch, h]
  simp only [Option.elim_none, hempty, Bool.false_eq_true, if_false]
  rw [run_seq, run_readFile, hread]
  simp only [hunpack, hschema, if_true]
  rfl

theorem save_ok {recent recent' : Recent Entry} {target bytes : Text}
    (h : ((save target bytes : Serial _).run recent).run machine = ((.ok (), recent'), machine')) :
    recent' = recent ∧ ∃ source made t, machine.tree.writeTemporary (Path.directory target) "tmp-" bytes =
      (.ok source, made) ∧ made.rename source target = (.ok (), t) ∧ machine' = { machine with tree := t } := by
  have hwrite : ((Disk.Host.writeTemporary (Path.directory target) "tmp-" bytes : Serial _).run recent).run machine =
    (((machine.tree.writeTemporary (Path.directory target) "tmp-" bytes).1, recent),
      { machine with tree := (machine.tree.writeTemporary (Path.directory target) "tmp-" bytes).2 }) := rfl
  rw [save, run_seq, hwrite] at h
  cases hw : machine.tree.writeTemporary (Path.directory target) "tmp-" bytes with
  | mk answer made =>
    rw [hw] at h
    cases answer with
    | error e => cases h
    | ok source =>
      have hrename : ((Disk.Host.rename source target : Serial _).run recent).run { machine with tree := made } =
        (((made.rename source target).1, recent), { machine with tree := (made.rename source target).2 }) := rfl
      simp only at h
      rw [run_seq, hrename] at h
      cases hr : made.rename source target with
      | mk answer t =>
        rw [hr] at h
        cases answer with
        | error e => cases h
        | ok u =>
          cases h
          exact ⟨rfl, source, made, t, rfl, hr, rfl⟩

/-- A put that succeeds takes the entry into memory and, if there is a directory, into a file. -/
theorem put_ok (h : (c.put key entry : StateM Machine _).run machine = ((.ok (), c'), machine')) :
    let kept := { entry with schema := schemaVersion }
    c' = { c with recent := c.recent.touch key kept } ∧ (c.directory = [] ∧ machine' = machine ∨ c.directory ≠ [] ∧
      ∃ source made t, machine.tree.writeTemporary (Path.directory (fileOf c.directory key)) "tmp-" kept.pack =
        (.ok source, made) ∧ made.rename source (fileOf c.directory key) = (.ok (), t) ∧
        machine' = { machine with tree := t }) := by
  intro kept
  have hkeep : ((Shared.keep key kept : Serial _).run c.recent).run machine =
    (((), c.recent.touch key kept), machine) := rfl
  rw [put, run_serve, store, run_seq, hkeep] at h
  cases hd : c.directory.isEmpty with
  | true =>
    rw [hd] at h
    cases h
    exact ⟨rfl, .inl ⟨List.isEmpty_iff.1 hd, rfl⟩⟩
  | false =>
    rw [hd] at h
    let saved := ((save (fileOf c.directory key) kept.pack : Serial _).run (c.recent.touch key kept)).run machine
    have hrun : ((saved.1.1, { c with recent := saved.1.2 }), saved.2) = ((Except.ok (), c'), machine') := h
    obtain ⟨hfirst, hmachine⟩ := Prod.mk.inj hrun
    obtain ⟨hanswer, hcache⟩ := Prod.mk.inj hfirst
    have hsaved : saved = ((.ok (), saved.1.2), machine') := Prod.ext (Prod.ext hanswer rfl) hmachine
    obtain ⟨hrecent, hfiles⟩ := save_ok hsaved
    rw [hrecent] at hcache
    exact ⟨hcache.symm, .inr ⟨by simpa using hd, hfiles⟩⟩

end Runs

/-! ## histories -/

/-- A use of a cache. -/
inductive Use where
  | put (key : Text) (entry : Entry)
  | get (key : Text)
  /-- The cache is given up and its directory opened again, with another capacity. -/
  | reopen (capacity : Int)
deriving Repr, DecidableEq

/-- A machine with a cache. -/
structure Live where
  machine : Machine
  cache : Cache

/-- The cache with a directory, unless it cannot be opened. -/
def Live.opened? (directory : Text) (capacity : Int) (machine : Machine) : Option Live :=
  match (openAt directory capacity : StateM Machine _).run machine with
  | (.ok cache, machine) => some ⟨machine, cache⟩
  | (.error _, _) => none

/-- A use of a cache, unless a file cannot be written or the directory not be opened. A get may be refused. -/
def Live.step (live : Live) : Use → Option Live
  | .put key entry =>
    match (live.cache.put key entry : StateM Machine _).run live.machine with
    | ((.ok (), cache), machine) => some ⟨machine, cache⟩
    | ((.error _, _), _) => none
  | .get key =>
    let after := (live.cache.get key : StateM Machine _).run live.machine
    some ⟨after.2, after.1.2⟩
  | .reopen capacity => Live.opened? live.cache.directory capacity live.machine

/-- A history: a cache is opened and then used. -/
def play (directory : Text) (capacity : Int) (uses : List Use) (machine : Machine) : Option Live := do
  let live ← Live.opened? directory capacity machine
  uses.foldlM Live.step live

/-- What a use does to a map: a put replaces the entry of its key. -/
def Use.onMap (map : Text → Option Entry) : Use → Text → Option Entry
  | .put key entry => Function.update map key (some { entry with schema := schemaVersion })
  | .get _ | .reopen _ => map

/-- The entries that were put last. -/
def mapOf (uses : List Use) : Text → Option Entry := uses.foldl Use.onMap fun _ => none

/-- The capacity asked for last. -/
def Use.capacity (before : Int) : Use → Int
  | .reopen capacity => capacity
  | .put _ _ | .get _ => before

/-- Keys are digests, and unpacking gives back the entries that are put. -/
def Use.Proper : Use → Prop
  | .put key entry =>
    IsKey key ∧ Entry.unpack? { entry with schema := schemaVersion }.pack = some { entry with schema := schemaVersion }
  | .get key => IsKey key
  | .reopen _ => True

theorem foldl_onMap_isSome (uses : List Use) (key : Text) : ∀ map : Text → Option Entry,
    (uses.foldl Use.onMap map key).isSome = true ↔ (map key).isSome = true ∨ ∃ entry, Use.put key entry ∈ uses := by
  induction uses with
  | nil => simp
  | cons use uses ih =>
    intro map
    rw [List.foldl_cons, ih]
    cases use with
    | put other entry =>
      by_cases hkey : key = other
      · subst hkey
        simp [Use.onMap]
      · simp [Use.onMap, hkey]
    | get other => simp [Use.onMap]
    | reopen capacity => simp [Use.onMap]

theorem mapOf_isSome_iff {uses : List Use} {key : Text} :
    (mapOf uses key).isSome = true ↔ ∃ entry, Use.put key entry ∈ uses := by
  simpa [mapOf] using foldl_onMap_isSome uses key fun _ => none

/-! ## the memory -/

/-- The memory has nothing but what a map has, and no more than it may. -/
structure Remembers (map : Text → Option Entry) (recent : Recent Entry) : Prop where
  items : ∀ key entry, (key, entry) ∈ recent.items → map key = some entry
  size : recent.items.length ≤ recent.capacity

section Memory

variable {map : Text → Option Entry} {recent : Recent Entry} {key : Text} {entry : Entry}

theorem Remembers.touch (h : Remembers map recent) (key : Text) (entry : Entry) :
    Remembers (Function.update map key (some entry)) (recent.touch key entry) where
  items other entry' hmem := by
    rcases List.mem_cons.1 (List.mem_of_mem_take hmem) with heq | hold
    · cases heq
      rw [Function.update_self]
    · obtain ⟨hitem, hne⟩ := List.mem_filter.1 hold
      have hother : other ≠ key := by simpa using hne
      rw [Function.update_of_ne hother]
      exact h.items other entry' hitem
  size := List.length_take_le ..

theorem Remembers.recall (h : Remembers map recent) (hkey : map key = some entry) :
    Remembers map (recent.touch key entry) := by
  have htouch := h.touch key entry
  rwa [← hkey, Function.update_eq_self] at htouch

theorem Remembers.value? (h : Remembers map recent) (hkey : recent.value? key = some entry) : map key = some entry :=
  h.items key entry (Run.mem_of_value? hkey)

end Memory

/-! ## the files -/

theorem isName_scans : Path.IsName "scans" := ⟨by decide, by decide, by decide, by decide⟩

theorem fileOf_eq {directory key : Text} (hd : directory ≠ []) (hkey : IsKey key) :
    fileOf directory key = folder directory ++ Text.slash :: fileName key := by
  rw [fileOf_eq_clean hd, folder_eq_clean hd]
  refine Path.clean_append_name (by simp) (isName_fileName hkey) ?_
  have hparts : Path.parts (directory ++ Text.slash :: Text.ofString "scans") =
      Path.parts directory ++ [Text.ofString "scans"] := by
    rw [Path.parts_append, Path.parts_of_no_slash isName_scans.no_slash]
  rw [hparts, List.foldl_append, Path.foldl_pushPart_names (by simpa using isName_scans)]
  simp

/-- The folder of a cache is in the tree, not only the start of a path. -/
theorem node?_folder {t : Tree} {directory : Text} (hd : directory ≠ []) {place : Place} {node : Disk.Node}
    (h : t.locate (folder directory) = .ok (.present place node)) : t.node? place = some node := by
  obtain ⟨front, hparts, -⟩ := @Path.parts_join directory hd ["scans"] (by simp) (by simpa using isName_scans)
  have hwalk := (Tree.locate_eq_present.1 h).2
  rw [folder, hparts] at hwalk
  exact hwalk.node?_of_name isName_scans

/-- The folder of a cache has a file for each key of a map, with its entry, and nothing else. -/
structure Backs (directory : Text) (place : Place) (map : Text → Option Entry) (t : Tree) : Prop where
  tree : t.WellFormed
  folder : t.locate (folder directory) = .ok (.present place .directory)
  readable : ∀ n, t.contents.size ≤ n → t.unreadable.lookup n = none
  listed : ∀ e, e ∈ t.children place ↔ ∃ key, (map key).isSome = true ∧ e = ⟨fileName key, false⟩
  distinct : (t.children place).Nodup
  stored : ∀ key entry, map key = some entry → IsKey key ∧ entry.schema = schemaVersion ∧
    ∃ bytes, t.Keeps (Cache.folder directory) place (fileName key) bytes ∧ Entry.unpack? bytes = some entry

section Files

variable {directory key : Text} {place : Place} {map : Text → Option Entry} {t t' : Tree}

/-- The file of a key that was put. -/
theorem Backs.readFile_of_some (h : Backs directory place map t) (hd : directory ≠ []) {entry : Entry}
    (hkey : map key = some entry) : ∃ bytes, t.readFile (fileOf directory key) = .ok bytes ∧
      Entry.unpack? bytes = some entry ∧ entry.schema = schemaVersion := by
  obtain ⟨hdigest, hschema, bytes, hkeeps, hunpack⟩ := h.stored key entry hkey
  refine ⟨bytes, ?_, hunpack, hschema⟩
  rw [fileOf_eq hd hdigest]
  exact hkeeps.readFile (isName_fileName hdigest) h.folder

/-- The file of a key that was not put. -/
theorem Backs.readFile_of_none (h : Backs directory place map t) (hd : directory ≠ []) (hdigest : IsKey key)
    (hkey : map key = none) : ∃ e, t.readFile (fileOf directory key) = .error e := by
  have hfree : t.node? (fileName key :: place) = none := by
    cases hnode : t.node? (fileName key :: place) with
    | none => rfl
    | some node =>
      obtain ⟨other, hother, heq⟩ := (h.listed _).1 (Tree.mem_children_of_node? hnode)
      have hsame : key = other := fileName_injective (congrArg DirectoryEntry.name heq)
      rw [← hsame, hkey] at hother
      cases hother
  rw [fileOf_eq hd hdigest]
  exact Tree.readFile_free (isName_fileName hdigest) h.folder hfree

/-- **A saved entry replaces that of its key**, in the folder as in the map. -/
theorem Backs.save (h : Backs directory place map t) {kept : Entry} (hdigest : IsKey key)
    (hschema : kept.schema = schemaVersion) (hunpack : Entry.unpack? kept.pack = some kept)
    (hfits : Tree.Fits (Cache.folder directory) (fileName key))
    (hsaved : Tree.Saved place (fileName key) kept.pack t t') :
    Backs directory place (Function.update map key (some kept)) t' := by
  -- names are one to one with keys, so a file of another key is another file
  have hother {other : Text} (hne : other ≠ key) : fileName other ≠ fileName key := fun heq => hne (fileName_injective heq)
  constructor
  case tree => exact hsaved.wellFormed
  case folder => exact hsaved.locate_folder h.folder
  case readable =>
    intro n hn
    rw [hsaved.size] at hn
    rw [hsaved.unreadable]
    exact h.readable n (by omega)
  case listed =>
    intro e
    rw [hsaved.children, List.mem_cons, List.mem_filter, h.listed]
    constructor
    · rintro (rfl | ⟨⟨other, hsome, rfl⟩, hne⟩)
      · exact ⟨key, by simp, rfl⟩
      · have hne' : other ≠ key := by
          rintro rfl
          simp at hne
        exact ⟨other, by rwa [Function.update_of_ne hne'], rfl⟩
    · rintro ⟨other, hsome, rfl⟩
      by_cases heq : other = key
      · exact .inl (by rw [heq])
      · rw [Function.update_of_ne heq] at hsome
        exact .inr ⟨⟨other, hsome, rfl⟩, by simpa using hother heq⟩
  case distinct =>
    rw [hsaved.children, List.nodup_cons]
    refine ⟨?_, h.distinct.filter _⟩
    intro hmem
    simpa using (List.mem_filter.1 hmem).2
  case stored =>
    intro other entry hentry
    by_cases heq : other = key
    · subst heq
      rw [Function.update_self] at hentry
      obtain rfl : kept = entry := Option.some.inj hentry
      exact ⟨hdigest, hschema, kept.pack, hsaved.keeps hfits (h.readable _ (Nat.le_refl _)), hunpack⟩
    · rw [Function.update_of_ne heq] at hentry
      obtain ⟨hkey, hversion, bytes, hkeeps, hbytes⟩ := h.stored other entry hentry
      exact ⟨hkey, hversion, bytes, hsaved.keeps_other h.tree (hother heq) hkeeps, hbytes⟩

end Files

/-! ## the invariant -/

/-- **A cache stands for a map**: its memory has nothing else, and if it has a directory, the files have all of it. -/
structure Refines (directory : Text) (place : Place) (capacity : Int) (map : Text → Option Entry) (live : Live) : Prop where
  opened : live.cache.directory = directory
  limit : live.cache.recent.capacity = room capacity
  memory : Remembers map live.cache.recent
  files : directory ≠ [] → Backs directory place map live.machine.tree

/-- What a get may answer: a hit is what the map has, and with a directory only a file that cannot be read and was never
put stands between the map and the answer. -/
structure Answers (directory key : Text) (map : Text → Option Entry) (t : Tree)
    (answer : Except Fault (Option Entry)) : Prop where
  hit : ∀ entry, answer = .ok (some entry) → map key = some entry
  all : directory ≠ [] → answer = .ok (map key) ∨
    map key = none ∧ ∃ e, t.readFile (fileOf directory key) = .error e ∧ e.isMissing = false

section Steps

variable {directory key : Text} {place : Place} {capacity : Int} {map : Text → Option Entry} {live live' : Live}

/-- **A get answers as the map does** and leaves the cache as good as it was. -/
theorem Refines.get (h : Refines directory place capacity map live) (hdigest : IsKey key) :
    let after := (live.cache.get key : StateM Machine _).run live.machine
    Answers directory key map live.machine.tree after.1.1 ∧
      Refines directory place capacity map ⟨after.2, after.1.2⟩ := by
  intro after
  -- the entry that is found is taken to the front of the memory
  have hfound {entry : Entry} (hkey : map key = some entry)
      (hrun : after = ((.ok (some entry), { live.cache with recent := live.cache.recent.touch key entry }),
        live.machine)) :
      Answers directory key map live.machine.tree after.1.1 ∧
        Refines directory place capacity map ⟨after.2, after.1.2⟩ := by
    rw [hrun]
    refine ⟨⟨fun entry' heq => ?_, fun _ => .inl (by rw [hkey])⟩, h.opened, h.limit, h.memory.recall hkey, h.files⟩
    cases heq
    exact hkey
  cases hrecall : live.cache.recent.value? key with
  | some entry => exact hfound (h.memory.value? hrecall) (get_of_recalled hrecall)
  | none =>
    by_cases hd : directory = []
    · have hrun : after = ((.ok none, live.cache), live.machine) := get_of_memory hrecall (h.opened.trans hd)
      rw [hrun]
      exact ⟨⟨fun entry heq => (by cases heq), fun hne => absurd hd hne⟩, h.opened, h.limit, h.memory, h.files⟩
    · have hbacked : live.cache.directory ≠ [] := by rwa [h.opened]
      cases hkey : map key with
      | some entry =>
        obtain ⟨bytes, hread, hunpack, hschema⟩ := (h.files hd).readFile_of_some hd hkey
        rw [← h.opened] at hread
        exact hfound hkey (get_of_file hrecall hbacked hread hunpack hschema)
      | none =>
        obtain ⟨e, hread⟩ := (h.files hd).readFile_of_none hd hdigest hkey
        have hrun : after = ((if e.isMissing then .ok none else .error (.file e), live.cache), live.machine) :=
          get_of_error hrecall hbacked (by rwa [h.opened])
        rw [hrun]
        refine ⟨?_, h.opened, h.limit, h.memory, h.files⟩
        cases hmissing : e.isMissing with
        | true => exact ⟨fun entry heq => (by cases heq), fun _ => .inl (by rw [hkey]; rfl)⟩
        | false => exact ⟨fun entry heq => (by cases heq), fun _ => .inr ⟨hkey, e, hread, hmissing⟩⟩

theorem Refines.put (h : Refines directory place capacity map live) {entry : Entry}
    (hproper : (Use.put key entry).Proper) (hstep : live.step (.put key entry) = some live') :
    Refines directory place capacity ((Use.put key entry).onMap map) live' := by
  obtain ⟨hdigest, hunpack⟩ := hproper
  simp only [Live.step] at hstep
  split at hstep
  · next cache machine hrun =>
    cases hstep
    obtain ⟨rfl, hfiles⟩ := put_ok hrun
    refine ⟨h.opened, h.limit, h.memory.touch key _, fun hd => ?_⟩
    rcases hfiles with ⟨hmemory, -⟩ | ⟨-, source, made, t, hwrite, hrename, rfl⟩
    · exact absurd (h.opened.symm.trans hmemory) hd
    · rw [h.opened] at hwrite hrename
      have hbacks := h.files hd
      have hplace : live.machine.tree.placeOf (Path.directory (fileOf directory key)) = place := by
        rw [placeOf_directory_fileOf _ hd hdigest, Tree.placeOf_of_present hbacks.folder]
      obtain ⟨hfits, hsaved⟩ := Tree.saved_of_ok hbacks.tree hbacks.folder (fileOf_eq hd hdigest) hplace
        (isName_fileName hdigest) hwrite hrename
      exact hbacks.save hdigest rfl hunpack hfits hsaved
  · cases hstep

/-- A cache that is opened again has an empty memory and the same files. -/
theorem Refines.reopen (h : Refines directory place capacity map live) {capacity' : Int}
    (hstep : live.step (.reopen capacity') = some live') : Refines directory place capacity' map live' := by
  simp only [Live.step, Live.opened?, h.opened] at hstep
  split at hstep
  · next cache machine hrun =>
    cases hstep
    obtain ⟨rfl, hmade⟩ := openAt_ok hrun
    refine ⟨rfl, rfl, ⟨fun _ _ hmem => (by cases hmem), Nat.zero_le _⟩, fun hd => ?_⟩
    rcases hmade with ⟨hmemory, -⟩ | ⟨-, hmade⟩
    · exact absurd hmemory hd
    · -- the folder is there, so nothing is made
      rw [Disk.makeDirectories_of_located (h.files hd).folder] at hmade
      cases hmade
      exact h.files hd
  · cases hstep

/-- **One use keeps the cache and the map together.** -/
theorem Refines.step (h : Refines directory place capacity map live) {use : Use} (hproper : use.Proper)
    (hstep : live.step use = some live') : Refines directory place (use.capacity capacity) (use.onMap map) live' := by
  cases use with
  | put key entry => exact h.put hproper hstep
  | get key =>
    cases hstep
    exact (h.get hproper).2
  | reopen capacity' => exact h.reopen hstep

/-- **A whole history keeps the cache and the map together.** -/
theorem Refines.play {uses : List Use} (hproper : ∀ use ∈ uses, use.Proper) :
    ∀ {live : Live} {capacity : Int} {map : Text → Option Entry}, Refines directory place capacity map live →
      uses.foldlM Live.step live = some live' →
      Refines directory place (uses.foldl Use.capacity capacity) (uses.foldl Use.onMap map) live' := by
  induction uses with
  | nil =>
    intro live capacity map h hplay
    cases hplay
    exact h
  | cons use uses ih =>
    intro live capacity map h hplay
    rw [List.forall_mem_cons] at hproper
    rw [List.foldlM_cons] at hplay
    obtain ⟨next, hstep, hrest⟩ := Option.bind_eq_some_iff.1 hplay
    exact ih hproper.2 (h.step hproper.1 hstep) hrest

end Steps

/-! ## from an empty directory -/

/-- Nothing is in the folder of a cache, which may not be there, and new files can be read. -/
structure Vacant (directory : Text) (t : Tree) : Prop where
  tree : t.WellFormed
  children : t.children (t.placeOf (folder directory)) = []
  readable : ∀ n, t.contents.size ≤ n → t.unreadable.lookup n = none

section Start

variable {directory : Text} {capacity : Int} {machine : Machine} {live : Live}

/-- A cache that is opened on an empty directory stands for the empty map. -/
theorem refines_opened (hempty : directory ≠ [] → Vacant directory machine.tree)
    (h : Live.opened? directory capacity machine = some live) :
    Refines directory (machine.tree.placeOf (folder directory)) capacity (fun _ => none) live := by
  unfold Live.opened? at h
  split at h
  · next cache after hrun =>
    cases h
    obtain ⟨rfl, hmade⟩ := openAt_ok hrun
    refine ⟨rfl, rfl, ⟨fun _ _ hmem => (by cases hmem), Nat.zero_le _⟩, fun hd => ?_⟩
    rcases hmade with ⟨hmemory, -⟩ | ⟨-, hmade⟩
    · exact absurd hmemory hd
    · obtain ⟨hwf, hnothing, hreadable⟩ := hempty hd
      obtain ⟨hlocated, hchildren⟩ := Disk.located_of_makeDirectories hwf (congrArg Prod.fst hmade)
      have hgrown : Tree.Grown machine.tree
          ((Disk.makeDirectories (folder directory) : StateM Machine _).run machine).2.tree :=
        Disk.grown_makeDirectoriesFrom _ machine
      rw [hmade] at hlocated hchildren hgrown
      -- the folder was there and empty, or has just been made
      have hnone : after.tree.children (machine.tree.placeOf (folder directory)) = [] := by
        rcases hchildren with rfl | hnew
        · exact hnothing
        · exact hnew
      refine ⟨hgrown.wellFormed hwf, hlocated, ?_, ?_, ?_, ?_⟩
      · intro n hn
        rw [hgrown.contents] at hn
        rw [hgrown.unreadable]
        exact hreadable n hn
      · simp [hnone]
      · simp [hnone]
      · intro key entry hkey
        cases hkey
  · cases h

theorem refines_play {uses : List Use} (hempty : directory ≠ [] → Vacant directory machine.tree)
    (hproper : ∀ use ∈ uses, use.Proper) (hplay : play directory capacity uses machine = some live) :
    Refines directory (machine.tree.placeOf (folder directory)) (uses.foldl Use.capacity capacity) (mapOf uses) live := by
  obtain ⟨first, hopened, hrest⟩ := Option.bind_eq_some_iff.1 hplay
  exact (refines_opened hempty hopened).play hproper hrest

end Start

/-- The names in the folder of a cache. -/
theorem Backs.listDirectory {directory : Text} {place : Place} {map : Text → Option Entry} {t : Tree}
    (h : Backs directory place map t) (hd : directory ≠ []) :
    ∃ listed, t.listDirectory (Cache.folder directory) = .ok listed ∧ listed.Perm (t.children place) := by
  have hnode := node?_folder hd h.folder
  have hsorted : t.listDirectory (Cache.folder directory) =
      .ok ((t.children place).mergeSort fun a b => !Text.before b.name a.name) := by
    rw [Tree.listDirectory, h.folder]
    simp only [hnode, Option.isSome_some, if_true]
  exact ⟨_, hsorted, List.mergeSort_perm ..⟩

/-- **A cache refines a map.** The map has the keys that were put, each with its last entry. After any history of puts,
gets and openings on an empty directory, a get answers as the map does, whatever the memory forgot or took from files in
between; only a file that cannot be read may come in the way, and never that of a key that was put. The folder has one
file for each key that was put, and no other. The memory has no more entries than it may. Without a directory every hit
is what the map has. -/
theorem play_refines_map {directory : Text} {capacity : Int} {uses : List Use} {machine : Machine} {live : Live}
    (hempty : directory ≠ [] → Vacant directory machine.tree) (hproper : ∀ use ∈ uses, use.Proper)
    (hplay : play directory capacity uses machine = some live) :
    (∀ key, (mapOf uses key).isSome = true ↔ ∃ entry, Use.put key entry ∈ uses) ∧
    (∀ key, IsKey key → Answers directory key (mapOf uses) live.machine.tree
      ((live.cache.get key : StateM Machine _).run live.machine).1.1) ∧
    (directory ≠ [] → ∃ listed, live.machine.tree.listDirectory (folder directory) = .ok listed ∧ listed.Nodup ∧
      (∀ e, e ∈ listed ↔ ∃ key entry, Use.put key entry ∈ uses ∧ e = ⟨fileName key, false⟩) ∧
      ∀ e ∈ listed, ∀ k, e.name ≠ Tree.temporaryName k) ∧
    live.cache.size ≤ room (uses.foldl Use.capacity capacity) := by
  have h := refines_play hempty hproper hplay
  refine ⟨fun _ => mapOf_isSome_iff, fun key hdigest => (h.get hdigest).1, fun hd => ?_, ?_⟩
  · obtain ⟨listed, hlisted, hperm⟩ := (h.files hd).listDirectory hd
    have hmem : ∀ e, e ∈ listed ↔ ∃ key entry, Use.put key entry ∈ uses ∧ e = ⟨fileName key, false⟩ := by
      intro e
      rw [hperm.mem_iff, (h.files hd).listed]
      simp only [mapOf_isSome_iff, exists_and_right]
    refine ⟨listed, hlisted, hperm.nodup_iff.2 (h.files hd).distinct, hmem, ?_⟩
    intro e he k heq
    obtain ⟨key, entry, hput, rfl⟩ := (hmem e).1 he
    exact temporaryName_ne_fileName (hproper _ hput).1 k heq.symm
  · rw [← h.limit]
    exact h.memory.size

/-- A memory of one entry. The second put drives out the first entry, which a get takes from its file again, driving out
the second; then the first key gets another entry, and the cache is opened again. -/
theorem play_refines_map_evicted :
    let key : Text := Text.hexBytes [0x0a]
    let other : Text := Text.hexBytes [0xfb]
    let entry (line : Int) : Entry := { records := some [{ kind := .cast, caller := "f", line }], lines := 9, headers := 1 }
    let uses : List Use := [.put key (entry 1), .put other (entry 2), .get key, .put key (entry 3), .get other,
      .reopen 1, .get key]
    ∃ live, Vacant "c" ({} : Machine).tree ∧ (∀ use ∈ uses, use.Proper) ∧ play "c" 1 uses {} = some live ∧
      ((live.cache.get key : StateM Machine _).run live.machine).1.1 = .ok (some { entry 3 with schema := 1 }) ∧
      ((live.cache.get other : StateM Machine _).run live.machine).1.1 = .ok (some { entry 2 with schema := 1 }) ∧
      (∃ listed, live.machine.tree.listDirectory (folder "c") = .ok listed ∧ listed.Nodup ∧
        ∀ e, e ∈ listed ↔ ∃ key entry, Use.put key entry ∈ uses ∧ e = ⟨fileName key, false⟩) ∧ live.cache.size ≤ 1 := by
  intro key other entry uses
  have hkey : IsKey key := ⟨_, rfl⟩
  have hother : IsKey other := ⟨_, rfl⟩
  have hvacant : Vacant "c" ({} : Machine).tree :=
    ⟨Tree.wellFormed_of_nodes (by simp) (by simp), rfl, fun _ _ => rfl⟩
  have hunpack : ∀ line ∈ ([1, 2, 3] : List Int), Entry.unpack? { entry line with schema := schemaVersion }.pack =
      some { entry line with schema := schemaVersion } := by decide +kernel
  have hproper : ∀ use ∈ uses, use.Proper := by
    simp only [uses, List.forall_mem_cons]
    exact ⟨⟨hkey, hunpack 1 (by decide)⟩, ⟨hother, hunpack 2 (by decide)⟩, hkey, ⟨hkey, hunpack 3 (by decide)⟩, hother,
      trivial, hkey, by simp⟩
  have hplayed : (play "c" 1 uses {}).isSome = true := by decide +kernel
  obtain ⟨live, hplay⟩ := Option.isSome_iff_exists.1 hplayed
  have hd : ("c" : Text) ≠ [] := by decide
  obtain ⟨-, hanswers, hlisted, hsize⟩ := play_refines_map (fun _ => hvacant) hproper hplay
  have hlast : mapOf uses key = some { entry 3 with schema := 1 } ∧ mapOf uses other = some { entry 2 with schema := 1 } := by
    decide +kernel
  -- the map has the key, so its file is not missing: the answer is the entry of the map
  have hanswer {k : Text} {e : Entry} (hk : IsKey k) (he : mapOf uses k = some e) :
      ((live.cache.get k : StateM Machine _).run live.machine).1.1 = .ok (some e) := by
    rcases (hanswers k hk).all hd with hall | ⟨hnone, -⟩
    · rw [hall, he]
    · rw [he] at hnone
      cases hnone
  obtain ⟨listed, hok, hnodup, hmem, -⟩ := hlisted hd
  exact ⟨live, hvacant, hproper, hplay, hanswer hkey hlast.1, hanswer hother hlast.2, ⟨listed, hok, hnodup, hmem⟩, hsize⟩

end CastAudit.Cache
