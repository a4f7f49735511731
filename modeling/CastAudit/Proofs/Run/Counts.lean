import CastAudit.Proofs.Cache.Packing
import CastAudit.Proofs.Run.Visiting
import Mathlib.Algebra.BigOperators.Group.List.Basic

/-!
# The lines and headers that a run counts

The counts of all logs are added up in 64 bits. What a scan counts is no more than the bytes of its log, but what the
entry of a cache tells is taken as it is.

* `Reading.counts_nonneg` — the counts of a run without a cache are not below zero, while its logs together are not too
  large;
* `Within limit lines headers` — counts from zero up to a limit;
* `Visitable directory t profile listing v` — what a run may find in its logs, and `Drifted` — a world where it finds no
  more, which is what `visit_drifted` says of every visit;
* `visit_within` — if the entries that a cache has for the logs are within a limit, then so is what a visit answers, and
  `Visiting.run_within` — the counts of the run are not below zero.
-/

namespace CastAudit

/-- Counts that stay below sizes do not wrap while the sizes together are small. -/
theorem Text.sum64_nonneg {α : Type} {count : α → Int} {size : α → Nat} {xs : List α}
    (h : ∀ x ∈ xs, 0 ≤ count x ∧ count x ≤ size x) (hsize : (xs.map size).sum < 2 ^ 63) :
    0 ≤ Text.sum64 (xs.map count) := by
  have hsum : 0 ≤ (xs.map count).sum ∧ (xs.map count).sum ≤ (xs.map size).sum := by
    clear hsize
    induction xs with
    | nil => simp
    | cons x xs ih =>
      rw [List.forall_mem_cons] at h
      have := ih h.2
      simp only [List.map_cons, List.sum_cons]
      omega
  have hwrap : Text.wrap64 (xs.map count).sum = (xs.map count).sum := Int.bmod_eq_of_le (by omega) (by omega)
  exact hwrap.ge.trans' hsum.1

namespace Run

open Disk (Machine Tree)

/-! ## without a cache -/

/-- The size of a log; what cannot be read has none. -/
def sizeIn (read : Text → Except Disk.Error Text) (job : Job) : Nat :=
  match read job.path with
  | .ok content => content.length
  | .error _ => 0

/-- **The lines and the headers of a reading** are not below zero, if the logs together are not too large. -/
theorem Reading.counts_nonneg {read : Text → Except Disk.Error Text} {profile : Profile} {listing : Listing}
    {result : RunResult} (h : Reading read profile listing result)
    (hsize : (listing.jobs.map (sizeIn read)).sum < 2 ^ 63) : 0 ≤ result.lines ∧ 0 ≤ result.headers := by
  have hbound (job : Job) {count : Scan → Nat}
      (hcount : ∀ content, count (scanLog profile job content).1 ≤ content.length) :
      let counted : Int := match read job.path with
        | .ok content => count (scanLog profile job content).1
        | .error _ => 0
      0 ≤ counted ∧ counted ≤ sizeIn read job := by
    unfold sizeIn
    cases read job.path with
    | ok content => exact ⟨Int.natCast_nonneg _, Int.ofNat_le.2 (hcount content)⟩
    | error e => exact ⟨Int.le_refl 0, Int.le_refl 0⟩
  rw [h.lines, h.headers]
  exact ⟨Text.sum64_nonneg (fun job _ => hbound job fun content => (scanLog_counts_le profile job content).1) hsize,
    Text.sum64_nonneg (fun job _ => hbound job fun content => (scanLog_counts_le profile job content).2) hsize⟩

/-! ## through a cache -/

/-- Counts of lines and headers that are not below zero and not above a limit. -/
structure Within (limit : Nat) (lines headers : Int) : Prop where
  lines : 0 ≤ lines ∧ lines ≤ limit
  headers : 0 ≤ headers ∧ headers ≤ limit

theorem within_zero (limit : Nat) : Within limit 0 0 :=
  ⟨⟨Int.le_refl 0, Int.natCast_nonneg limit⟩, Int.le_refl 0, Int.natCast_nonneg limit⟩

theorem within_scan {v : Visit} {limit : Nat} (h : v.content.length ≤ limit) :
    Within limit v.scan.1.lines v.scan.1.headers := by
  obtain ⟨hlines, hheaders⟩ := scanLog_counts_le v.profile v.job v.content
  exact ⟨⟨Int.natCast_nonneg _, Int.ofNat_le.2 (hlines.trans h)⟩, Int.natCast_nonneg _, Int.ofNat_le.2 (hheaders.trans h)⟩

/-! ### what the logs may hold -/

/-- What a run may find in a log: what was there when it began or, if its path does not keep away from the folder of the
cache, an entry that the run itself has stored. -/
inductive Visitable (directory : Text) (t : Tree) (profile : Profile) (listing : Listing) : Visit → Prop where
  | among {v : Visit} (h : v.Among t.readFile profile listing) : Visitable directory t profile listing v
  | stored {v : Visit} {job : Job} (h : Visitable directory t profile listing v) (hclean : isClean v.scan = true)
      (hjob : job ∈ listing.jobs) (hinside : ¬ t.Avoids (t.placeOf (Cache.folder directory)) job.path) :
      Visitable directory t profile listing ⟨profile, job, v.entry.pack⟩

section Visitable

variable {directory : Text} {t : Tree} {profile : Profile} {listing : Listing}

/-- If no log lies in the folder of the cache, the logs hold what they held. -/
theorem Visitable.among_of_apart {v : Visit} (h : Visitable directory t profile listing v) (hd : directory ≠ [])
    (hapart : Apart directory listing t) : v.Among t.readFile profile listing := by
  cases h with
  | among h => exact h
  | stored _ _ hjob hinside => exact absurd (hapart hd _ hjob) hinside

/-- The logs hold nothing but what a run may find in them, and paths lead from the same place as in a tree. -/
structure Drifted (directory : Text) (t : Tree) (profile : Profile) (listing : Listing) (w : World) : Prop where
  tree : w.machine.tree.WellFormed
  current : w.machine.tree.current = t.current
  logs : ∀ job ∈ listing.jobs, ∀ content, w.machine.tree.readFile job.path = .ok content →
    Visitable directory t profile listing ⟨profile, job, content⟩

theorem drifted_start {w : World} (hwf : w.machine.tree.WellFormed) :
    Drifted directory w.machine.tree profile listing w :=
  ⟨hwf, rfl, fun _ hjob _ hcontent => .among ⟨rfl, hjob, hcontent⟩⟩

/-- **Saving the entry of a scan leaves the logs with it, or as they are.** -/
theorem Drifted.save {w : World} (h : Drifted directory t profile listing w) (hd : directory ≠ []) {v : Visit}
    (hv : Visitable directory t profile listing v) (hclean : isClean v.scan = true) :
    Drifted directory t profile listing { w with machine := { w.machine with
      tree := w.machine.tree.save (Cache.fileOf directory v.key) v.entry.pack } } := by
  obtain ⟨front, hparts⟩ := (Cache.parts_fileOf hd v.isKey).1
  have hsame := Cache.sameOutside_save w.machine.tree hd v.isKey v.entry.pack
  refine ⟨Tree.wellFormed_save h.tree _ hparts (Cache.isName_fileName v.isKey), hsame.current.trans h.current,
    fun job hjob content hcontent => ?_⟩
  by_cases havoid : t.Avoids (t.placeOf (Cache.folder directory)) job.path
  · have havoid' : w.machine.tree.Avoids (w.machine.tree.placeOf (Cache.folder directory)) job.path := by
      simpa only [Tree.Avoids, Tree.placeOf, Tree.origin, h.current] using havoid
    exact h.logs job hjob content ((Tree.readFile_of_avoids hsame h.tree havoid').symm.trans hcontent)
  · rcases Tree.readFile_save_cases h.tree hparts (Cache.isName_fileName v.isKey) hcontent with hbefore | ⟨rfl, -⟩
    · exact h.logs job hjob content hbefore
    · exact .stored hv hclean hjob havoid

/-- A visit leaves the logs as a run may find them. -/
theorem visit_drifted {job : Job} (hjob : job ∈ listing.jobs) :
    (visit profile (some directory) job : Program World Outcome).Keeps (fun _ => True)
      (Drifted directory t profile listing) fun _ => True :=
  visit_keeps_saving (fun _ _ hw => ⟨hw.tree, hw.current, hw.logs⟩)
    fun hd content _ hw₀ hread hclean _ hw => hw.save hd (hw₀.logs job hjob content hread) hclean

end Visitable

/-! ### what the visits count -/

section Within

variable {profile : Profile} {listing : Listing} {directory : Text} {limit : Nat}

/-- The entries for some visits are within a limit. -/
def EntriesWithin (limit : Nat) (visits : Visit → Prop) (v : Visit) (entry : Cache.Entry) : Prop :=
  visits v → Within limit entry.lines entry.headers

/-- **A visit counts no more than the limit**, whatever other workers do, and keeps the entries within it. -/
theorem visit_within {t : Tree}
    (hlogs : ∀ v, Visitable directory t profile listing v → v.Small ∧ v.content.length ≤ limit) {job : Job}
    (hjob : job ∈ listing.jobs) :
    (visit profile (some directory) job : Program World Outcome).Keeps (fun _ => True)
      (fun w => Drifted directory t profile listing w ∧
        Holding directory (EntriesWithin limit (Visitable directory t profile listing)) w)
      fun o => Within limit o.lines o.headers := by
  refine Program.Keeps.and ?_ (visit_drifted hjob)
  refine Program.keeps_bind (keeps_readFile fun w hdrifted _ => ?_)
  cases hread : w.machine.tree.readFile job.path with
  | error e =>
    simp only
    split
    · exact within_zero limit
    · exact within_zero limit
  | ok content =>
    let v : Visit := ⟨profile, job, content⟩
    have hv : Visitable directory t profile listing v := hdrifted.logs job hjob content hread
    obtain ⟨hsmall, hsize⟩ := hlogs v hv
    -- from the cache: an entry in it, an entry that has just been read, or a scan
    refine (@visitCached_holding _ directory _ v ?_ ?_ ?_).imp ?_
    · exact fun entry hentry _ _ _ => hentry hv
    · exact fun _ _ => within_scan hsize
    · intro _ entry hunpack _
      rw [unpack?_entry hsmall] at hunpack
      exact Option.some.inj hunpack ▸ within_scan hsize
    · rintro o (⟨entry, hentry, rfl⟩ | ⟨fault, rfl⟩)
      · exact hentry hv
      · exact within_scan hsize

/-- Counts within a limit add up to no less than zero. -/
theorem counts_nonneg_of_within {outcomes : List Outcome} (h : ∀ o ∈ outcomes, Within limit o.lines o.headers)
    (htotal : outcomes.length * limit < 2 ^ 63) :
    0 ≤ (RunResult.ofOutcomes listing outcomes).lines ∧ 0 ≤ (RunResult.ofOutcomes listing outcomes).headers := by
  have hpresent : ∀ o ∈ outcomes.filter fun o => !o.missing, Within limit o.lines o.headers :=
    fun o ho => h o (List.mem_of_mem_filter ho)
  have hsize : ((outcomes.filter fun o => !o.missing).map fun _ => limit).sum < 2 ^ 63 := by
    rw [List.map_const', List.sum_replicate_nat]
    exact (Nat.mul_le_mul_right limit (List.length_filter_le _ _)).trans_lt htotal
  exact ⟨Text.sum64_nonneg (fun o ho => (hpresent o ho).lines) hsize,
    Text.sum64_nonneg (fun o ho => (hpresent o ho).headers) hsize⟩

/-- **A run through a cache** whose entries for the logs are within a limit counts no less than zero, if the logs are not
too many. -/
theorem Visiting.run_within {visiting : Visiting} {c : Cache} {machine after : Machine} {result : RunResult}
    {events : List Progress}
    (h : (visiting.run profile (some c) listing).run machine = (.ok (result, events), after))
    (hholding : Holding c.directory (EntriesWithin limit (Visitable c.directory machine.tree profile listing))
      ⟨machine, c.recent⟩)
    (hlogs : ∀ v, Visitable c.directory machine.tree profile listing v → v.Small ∧ v.content.length ≤ limit)
    (htotal : listing.jobs.length * limit < 2 ^ 63) :
    after.tree.WellFormed ∧ 0 ≤ result.lines ∧ 0 ≤ result.headers := by
  obtain ⟨outcomes, world, rfl, hgood, ⟨hdrifted, -⟩, rfl⟩ := Visiting.run_sound h
    (fun job hjob => visit_within hlogs hjob) ⟨drifted_start hholding.tree, hholding⟩
  refine ⟨hdrifted.tree, counts_nonneg_of_within (fun o ho => ?_) (hgood.length_eq ▸ htotal)⟩
  obtain ⟨i, hi, rfl⟩ := List.getElem_of_mem ho
  exact hgood.get (hgood.length_eq.symm ▸ hi) hi

end Within

end Run

end CastAudit
