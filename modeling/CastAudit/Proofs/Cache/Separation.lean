import CastAudit.Proofs.Cache.Transparency
import CastAudit.Proofs.Disk.Outside

/-!
# Logs apart from the cache

A worker changes files only in the folder of the cache. If no log lies there, all logs read the same throughout a run,
and nothing need be assumed of the worlds that the run passes.

* `Apart directory listing tree` — no path of the listing leads into the folder of the cache;
* `visit_keeps_saving` — a visit keeps what is kept when the entry of its scan is saved;
* `Calm listing world w` — the logs read as they did in a world at the start;
* `visit_calm` — a visit keeps all logs calm, and `visit_apart` — so the cache does not show in what it answers;
* `throughout_resting` — so do runs, and `Course.of_apart` — every such run is a course of the cache.
-/

namespace CastAudit

/-! ## places -/

namespace Cache

open Disk (Tree)

theorem folder_eq_clean {directory : Text} (hd : directory ≠ []) :
    folder directory = Path.clean (directory ++ Text.slash :: Text.ofString "scans") := by
  have hempty : directory.isEmpty = false := by simpa using hd
  simp [folder, Path.join, hempty, Text.join]

theorem fileOf_eq_clean {directory : Text} (hd : directory ≠ []) (key : Text) : fileOf directory key =
    Path.clean ((directory ++ Text.slash :: Text.ofString "scans") ++ Text.slash :: fileName key) := by
  have hempty : directory.isEmpty = false := by simpa using hd
  simp [fileOf, Path.join, hempty, Text.join, fileName]

theorem placeOf_fileOf (t : Tree) {directory key : Text} (hd : directory ≠ []) (hkey : IsKey key) :
    t.placeOf (fileOf directory key) = fileName key :: t.placeOf (folder directory) := by
  rw [fileOf_eq_clean hd, folder_eq_clean hd, Tree.placeOf_clean, Tree.placeOf_clean,
    Tree.placeOf_append t (by simp) (isName_fileName hkey)]

theorem placeOf_directory_fileOf (t : Tree) {directory key : Text} (hd : directory ≠ []) (hkey : IsKey key) :
    t.placeOf (Path.directory (fileOf directory key)) = t.placeOf (folder directory) := by
  obtain ⟨front, hfront⟩ := (parts_fileOf hd hkey).1
  obtain ⟨x, ps, hparts, -, hplace⟩ := t.placeOf_directory (fileOf directory key)
  obtain rfl : x = fileName key := (List.cons.inj (List.append_inj_right' (hparts.symm.trans hfront) rfl)).1
  have hname := isName_fileName hkey
  rw [placeOf_fileOf t hd hkey, Path.stepTo_name hname.ne_nil hname.ne_here hname.ne_above] at hplace
  exact (List.cons.inj hplace).2.symm

/-- Saving an entry changes the tree in the folder of the cache alone. -/
theorem sameOutside_save (t : Tree) {directory key : Text} (hd : directory ≠ []) (hkey : IsKey key) (bytes : Text) :
    Tree.SameOutside (t.placeOf (folder directory)) t (t.save (fileOf directory key) bytes) := by
  refine Tree.sameOutside_save _ bytes (placeOf_directory_fileOf t hd hkey) ?_
  rw [placeOf_fileOf t hd hkey]
  exact Tree.below_cons _ _

end Cache

namespace Run

open Disk (Machine Tree)

/-! ## invariants together -/

/-- What one invariant needs to be known may be another invariant. -/
theorem Program.Keeps.and {W α : Type} {known kept kept' : W → Prop} {result result' : α → Prop} {p : Program W α}
    (h : p.Keeps kept' kept result) (h' : p.Keeps known kept' result') :
    p.Keeps known (fun w => kept' w ∧ kept w) result := by
  induction p with
  | done a => exact h
  | step next rest ih =>
    intro w hk hw
    obtain ⟨hnext, hrest⟩ := h w hw.1 hw.2
    obtain ⟨hnext', hrest'⟩ := h' w hk hw.1
    exact ⟨⟨hnext', hnext⟩, ih w hrest hrest'⟩

/-! ## what saving keeps -/

section Saving

variable {directory key : Text} {kept : World → Prop} (hmemory : ∀ w recent, kept w → kept { w with recent })
include hmemory

theorem lookUp_keeps : (Cache.lookUp directory key : Program World _).Keeps (fun _ => True) kept fun _ => True := by
  refine Program.keeps_bind (Program.keeps_act fun w _ hw => ⟨hmemory w _ hw, ?_⟩)
  cases w.recent.value? key with
  | some entry => trivial
  | none =>
    simp only
    split
    · trivial
    · refine Program.keeps_bind (keeps_readFile fun w _ _ => ?_)
      cases w.machine.tree.readFile (Cache.fileOf directory key) with
      | error e => trivial
      | ok bytes =>
        simp only
        cases Cache.Entry.unpack? bytes with
        | none => trivial
        | some entry =>
          simp only
          split
          · exact Program.keeps_bind (Program.keeps_act fun w _ hw => ⟨hmemory w _ hw, trivial⟩)
          · trivial

theorem store_keeps {v : Visit} (hsave : directory ≠ [] → ∀ w, kept w → kept { w with machine := { w.machine with
      tree := w.machine.tree.save (Cache.fileOf directory v.key) v.entry.pack } }) :
    (Cache.store directory v.key (entryOf v.scan.1) : Program World _).Keeps (fun _ => True) kept fun _ => True := by
  refine Program.keeps_bind (Program.keeps_act fun w _ hw => ⟨hmemory w _ hw, ?_⟩)
  split
  · trivial
  · next hd =>
    refine Program.keeps_act fun w _ hw => ⟨?_, trivial⟩
    rw [run_save]
    exact hsave (by simpa using hd) w hw

/-- **A visit keeps what is not told of the memory and is kept when the entry of its scan is saved.** -/
theorem visit_keeps_saving {profile : Profile} {job : Job} (hsave : directory ≠ [] → ∀ content w₀,
      kept w₀ → w₀.machine.tree.readFile job.path = .ok content →
      let v : Visit := ⟨profile, job, content⟩
      isClean v.scan = true → ∀ w, kept w → kept { w with machine := { w.machine with
        tree := w.machine.tree.save (Cache.fileOf directory v.key) v.entry.pack } }) :
    (visit profile (some directory) job : Program World Outcome).Keeps (fun _ => True) kept fun _ => True := by
  refine Program.keeps_bind (keeps_readFile fun w _ hw => ?_)
  cases hread : w.machine.tree.readFile job.path with
  | error e => trivial
  | ok content =>
    let v : Visit := ⟨profile, job, content⟩
    refine (@visitCached_cases _ directory v _ (fun _ => True) ((lookUp_keeps hmemory).imp fun _ _ _ _ => trivial)
      fun hclean => store_keeps hmemory fun hd => ?_).imp fun _ _ => trivial
    exact hsave hd content w hw hread hclean

end Saving

/-! ## calm logs -/

/-- No path of the listing leads into the folder of the cache, if it has one. -/
def Apart (directory : Text) (listing : Listing) (t : Tree) : Prop :=
  directory ≠ [] → ∀ job ∈ listing.jobs, t.Avoids (t.placeOf (Cache.folder directory)) job.path

instance (directory : Text) (listing : Listing) (t : Tree) : Decidable (Apart directory listing t) :=
  inferInstanceAs (Decidable (directory ≠ [] →
    ∀ job ∈ listing.jobs, t.Avoids (t.placeOf (Cache.folder directory)) job.path))

theorem Apart.of_current {directory : Text} {listing : Listing} {t t' : Tree} (h : Apart directory listing t)
    (hcurrent : t'.current = t.current) : Apart directory listing t' := by
  simpa only [Apart, Tree.Avoids, Tree.placeOf, Tree.origin, hcurrent] using h

/-- The logs read as they do in another world, and paths lead from the same place. -/
structure Calm (listing : Listing) (world w : World) : Prop where
  tree : w.machine.tree.WellFormed
  current : w.machine.tree.current = world.machine.tree.current
  logs : Resting listing world w

section Calm

variable {directory : Text} {listing : Listing} {world : World}

theorem Calm.of_machine {w w' : World} (h : Calm listing world w) (heq : w'.machine = w.machine) :
    Calm listing world w' := by
  obtain ⟨machine', recent'⟩ := w'
  obtain rfl : machine' = w.machine := heq
  exact ⟨h.tree, h.current, h.logs⟩

/-- **Saving an entry disturbs no log.** -/
theorem Calm.save {w : World} (h : Calm listing world w) (hd : directory ≠ [])
    (hapart : Apart directory listing world.machine.tree) {key : Text} (hkey : Cache.IsKey key) (bytes : Text) :
    Calm listing world { w with machine := { w.machine with
      tree := w.machine.tree.save (Cache.fileOf directory key) bytes } } := by
  obtain ⟨front, hparts⟩ := (Cache.parts_fileOf hd hkey).1
  have hsame := Cache.sameOutside_save w.machine.tree hd hkey bytes
  refine ⟨Tree.wellFormed_save h.tree bytes hparts (Cache.isName_fileName hkey), hsame.current.trans h.current,
    fun job hjob => ?_⟩
  have havoid := hapart.of_current h.current hd job hjob
  exact (Tree.readFile_of_avoids hsame h.tree havoid).trans (h.logs job hjob)

variable (hapart : Apart directory listing world.machine.tree)
include hapart

/-- **A visit disturbs no log.** -/
theorem visit_calm (profile : Profile) (job : Job) :
    (visit profile (some directory) job : Program World Outcome).Keeps (fun _ => True) (Calm listing world)
      fun _ => True :=
  visit_keeps_saving (fun _ _ hw => hw.of_machine rfl)
    fun hd _ _ _ _ _ _ hw => hw.save hd hapart (Visit.isKey _) _

/-- **The cache does not show in a visit**, whatever other workers do, if no log lies in its folder. -/
theorem visit_apart {visits : Visit → Prop} (hf : Faithful visits) {profile : Profile}
    (hprofile : profile ∈ Profile.all) {job : Job} (hjob : job ∈ listing.jobs) (hpackage : 0 ∉ job.packageId)
    (hvisits : ∀ content, world.machine.tree.readFile job.path = .ok content → visits ⟨profile, job, content⟩) :
    (visit profile (some directory) job : Program World Outcome).Keeps (fun _ => True)
      (fun w => Calm listing world w ∧ Kept directory visits w)
      (Transparent world.machine.tree.readFile profile job) :=
  (visit_transparent hf hprofile hpackage (fun _ hcalm => hcalm.logs job hjob) hvisits).and
    (visit_calm hapart profile job)

/-- **The logs rest throughout a run** if none of them lies in the folder of the cache. -/
theorem throughout_resting (hwf : world.machine.tree.WellFormed) (profile : Profile) (wanted : Int) (processors : Nat)
    (choices : List Nat) :
    Pool.Throughout (plan profile (some directory) listing wanted processors) (Resting listing world)
      (Pool.start (plan profile (some directory) listing wanted processors) world) choices := by
  have hcalm : Calm listing world world := ⟨hwf, rfl, fun _ _ => rfl⟩
  have hthroughout : Pool.Throughout (plan profile (some directory) listing wanted processors) (Calm listing world)
      (Pool.start (plan profile (some directory) listing wanted processors) world) choices :=
    Pool.throughout_of_sound (fun job _ => visit_calm hapart profile job) (Pool.sound_start hcalm)
  exact hthroughout.imp fun w hw => hw.logs

/-- Such a run need not be watched: from how it begins and which steps it takes it is a course of the cache. -/
theorem Course.of_apart {visits : Visit → Prop} {profile : Profile} {wanted : Int} {processors : Nat}
    {choices : List Nat} {s : Pool World} (hwf : world.machine.tree.WellFormed) (hknown : profile ∈ Profile.all)
    (hpackages : ∀ job ∈ listing.jobs, 0 ∉ job.packageId)
    (hvisited : ∀ job ∈ listing.jobs, ∀ content, world.machine.tree.readFile job.path = .ok content →
      visits ⟨profile, job, content⟩)
    (hsteps : (Pool.start (plan profile (some directory) listing wanted processors) world).follow
      (plan profile (some directory) listing wanted processors) choices = some s) :
    Course directory visits profile listing wanted processors world choices s where
  known := hknown
  packages := hpackages
  visited := hvisited
  steps := hsteps
  rest := throughout_resting hapart hwf profile wanted processors choices

end Calm

end Run

end CastAudit
