import CastAudit.Proofs.Disk.Paths
import CastAudit.Proofs.Text.Distinct
import CastAudit.Run
import Mathlib.Data.List.Nodup

/-!
# The order of a retry

A failure list becomes a listing in which the logs stand by the name of the directory that holds them. Directories
come in the order in which they first appear, and logs in the order of the list.

* `gathered jobs` — the listing of some logs, and `add_gathered` — one log more;
* `groupedBy key paths` — paths in such an order;
* `jobs_ofFailures` — the logs of the listing are visited in it, and `ofFailures_of_distinct` — the listing of logs of
  different packages;
* `perm_groupedBy` — each log once;
* `groupedBy_filter` — logs that are left out leave the order of the others as it is, so a list in that order stays in it.
-/

namespace CastAudit.Listing

/-- Paths by their keys: keys in the order in which they first appear, and the paths of one key in their order. -/
def groupedBy (key : Text → Text) (paths : List Text) : List Text :=
  (paths.map key).eraseDups.flatMap fun d => paths.filter fun p => key p == d

/-- The log at a path, for the package that is named like its directory. -/
def jobAt (path : Text) : Job := ⟨packageOfLog path, path⟩

@[simp] theorem path_jobAt (p : Text) : (jobAt p).path = p := rfl

theorem lf_not_mem_packageOfLog {path : Text} (h : Text.lf ∉ path) : Text.lf ∉ packageOfLog path := by
  intro hmem
  rcases Path.mem_of_mem_name_directory hmem with hpath | hslash | hdot
  · exact h hpath
  · cases hslash
  · cases hdot

/-! ## logs by their packages -/

/-- The listing of some logs: packages in the order in which they first appear, and the logs of one in their order. -/
def gathered (jobs : List Job) : Listing :=
  (jobs.map Job.packageId).eraseDups.map fun d => ⟨d, (jobs.filter fun job => job.packageId == d).map Job.path⟩

theorem lists_gathered (jobs : List Job) (d : Text) :
    (gathered jobs).lists d = (jobs.map Job.packageId).contains d := by
  rw [Bool.eq_iff_iff]
  simp [lists, gathered, List.mem_eraseDups]

/-- **One more log** goes to the end of its package, or starts a package at the end. -/
theorem add_gathered (jobs : List Job) (job : Job) :
    (gathered jobs).add job.packageId job.path = gathered (jobs ++ [job]) := by
  have hkeys : ((jobs ++ [job]).map Job.packageId).eraseDups = (jobs.map Job.packageId).eraseDups ++
      ([job.packageId].filter fun d => !(jobs.map Job.packageId).contains d) := by
    rw [List.map_append, eraseDups_append_eq]
    rfl
  rw [add, lists_gathered]
  unfold gathered
  rw [hkeys]
  -- a package that is there gets the log at its end; a new one is put behind all others
  cases hknown : (jobs.map Job.packageId).contains job.packageId with
  | true =>
    simp only [if_true, List.filter_cons, hknown, Bool.not_true, Bool.false_eq_true, if_false, List.filter_nil,
      List.append_nil, List.map_map]
    refine List.map_congr_left fun d _ => ?_
    simp only [Function.comp_apply, List.filter_append, List.filter_cons, List.filter_nil, beq_iff_eq,
      @eq_comm _ d job.packageId]
    split <;> simp
  | false =>
    have hnone : (jobs.filter fun j => j.packageId == job.packageId) = [] := by
      rw [List.filter_eq_nil_iff]
      intro j hj heq
      have hmem : job.packageId ∈ jobs.map Job.packageId := List.mem_map.2 ⟨j, hj, by simpa using heq⟩
      rw [List.contains_iff_mem.2 hmem] at hknown
      cases hknown
    simp only [Bool.false_eq_true, if_false, List.filter_cons, hknown, Bool.not_false, if_true, List.filter_nil,
      List.map_append, List.map_cons, List.map_nil, List.filter_append, hnone, BEq.rfl, List.nil_append]
    congr 1
    refine List.map_congr_left fun d hd => ?_
    have hne : (job.packageId == d) = false := by
      rw [beq_eq_false_iff_ne]
      rintro rfl
      rw [List.contains_iff_mem.2 (List.mem_eraseDups.1 hd)] at hknown
      cases hknown
    simp [hne]

theorem logCount_gathered (jobs : List Job) : (gathered jobs).logCount = jobs.length := by
  have hcount (d : Text) : (jobs.filter fun job => job.packageId == d).length = (jobs.map Job.packageId).count d := by
    rw [List.count, List.countP_map, List.countP_eq_length_filter]
    rfl
  have hsum := sum_count_eraseDups (jobs.map Job.packageId)
  rw [List.length_map] at hsum
  have hfold (ds : List Text) : ((logCount (ds.map fun d =>
      (⟨d, (jobs.filter fun job => job.packageId == d).map Job.path⟩ : ListingEntry)) : Nat) : Int) =
      (ds.map fun d => ((jobs.map Job.packageId).count d : Int)).sum := by
    induction ds with
    | nil => rfl
    | cons d ds ih =>
      rw [List.map_cons, List.map_cons, List.sum_cons, ← ih, ← hcount]
      simp [logCount]
  have := hfold (jobs.map Job.packageId).eraseDups
  rw [hsum] at this
  exact Int.ofNat_inj.1 this

/-! ## the listing of a failure list -/

/-- The listing of paths by their directories. -/
def blocks (paths : List Text) : Listing :=
  (paths.map packageOfLog).eraseDups.map fun d => ⟨d, paths.filter fun p => packageOfLog p == d⟩

theorem blocks_eq (paths : List Text) : blocks paths = gathered (paths.map jobAt) := by
  simp [blocks, gathered, List.filter_map, List.map_map, Function.comp_def, jobAt]

theorem add_blocks (paths : List Text) (p : Text) : (blocks paths).add (packageOfLog p) p = blocks (paths ++ [p]) := by
  rw [blocks_eq, blocks_eq, List.map_append]
  exact add_gathered _ (jobAt p)

theorem foldl_add (paths : List Text) : ∀ front,
    paths.foldl (fun l p => l.add (packageOfLog p) p) (blocks front) = blocks (front ++ paths) := by
  induction paths with
  | nil => simp
  | cons p paths ih =>
    intro front
    rw [List.foldl_cons, add_blocks, ih]
    simp

theorem jobs_blocks (paths : List Text) : (blocks paths).jobs = (groupedBy packageOfLog paths).map jobAt := by
  rw [jobs, blocks, List.flatMap_map, groupedBy, List.map_flatMap]
  refine List.flatMap_congr fun d _ => List.map_congr_left fun p hp => ?_
  have hd : packageOfLog p = d := by simpa using (List.mem_filter.1 hp).2
  rw [jobAt, hd]

/-- The listing of a failure list that has each log once and as it is. -/
theorem ofFailures_eq_blocks {failed : List Text} (hnodup : failed.Nodup) (h : ∀ p ∈ failed, Text.trim p = p ∧ p ≠ []) :
    ofFailures failed = blocks failed := by
  have htrim : failed.map Text.trim = failed := by
    conv_rhs => rw [← List.map_id failed]
    exact List.map_congr_left fun p hp => (h p hp).1
  have hfilled : (failed.filter fun p => !p.isEmpty) = failed := by
    rw [List.filter_eq_self]
    intro p hp
    simpa using (h p hp).2
  rw [ofFailures, distinctPaths, htrim, hfilled, eraseDups_of_nodup hnodup]
  exact foldl_add failed []

/-- **The logs of a failure list are visited in their order**, if it has each of them once and as it is. -/
theorem jobs_ofFailures {failed : List Text} (hnodup : failed.Nodup)
    (h : ∀ p ∈ failed, Text.trim p = p ∧ p ≠ []) :
    (ofFailures failed).jobs = (groupedBy packageOfLog failed).map jobAt := by
  rw [ofFailures_eq_blocks hnodup h, jobs_blocks]

/-- The log at a path alone, for the package that is named like its directory. -/
def entryAt (path : Text) : ListingEntry := ⟨packageOfLog path, [path]⟩

/-- A path is the only one with its key, if no key comes twice. -/
theorem filter_key_eq {key : Text → Text} {paths : List Text} (hnodup : (paths.map key).Nodup) {p : Text}
    (hp : p ∈ paths) : (paths.filter fun q => key q == key p) = [p] := by
  induction paths with
  | nil => cases hp
  | cons q paths ih =>
    rw [List.map_cons, List.nodup_cons] at hnodup
    rw [List.filter_cons]
    rcases List.mem_cons.1 hp with rfl | hp
    · have hnone : (paths.filter fun q => key q == key p) = [] := by
        rw [List.filter_eq_nil_iff]
        intro q hq heq
        exact hnodup.1 (List.mem_map.2 ⟨q, hq, eq_of_beq heq⟩)
      rw [if_pos (by simp), hnone]
    · have hne : (key q == key p) = false := by
        rw [beq_eq_false_iff_ne]
        exact fun heq => hnodup.1 (List.mem_map.2 ⟨p, hp, heq.symm⟩)
      rw [if_neg (by simp [hne]), ih hnodup.2 hp]

/-- **Logs of different packages** have an entry each. -/
theorem ofFailures_of_distinct {failed : List Text} (hnodup : (failed.map packageOfLog).Nodup)
    (h : ∀ p ∈ failed, Text.trim p = p ∧ p ≠ []) : ofFailures failed = failed.map entryAt := by
  rw [ofFailures_eq_blocks (List.Nodup.of_map _ hnodup) h, blocks, eraseDups_of_nodup hnodup, List.map_map]
  refine List.map_congr_left fun p hp => ?_
  rw [Function.comp_apply, filter_key_eq hnodup hp, entryAt]

theorem jobs_entriesAt (paths : List Text) : Listing.jobs (paths.map entryAt) = paths.map jobAt := by
  rw [jobs, List.flatMap_map, List.map_eq_flatMap]
  rfl

/-! ## the order -/

section Order

variable {key : Text → Text}

theorem mem_groupedBy {paths : List Text} {p : Text} : p ∈ groupedBy key paths ↔ p ∈ paths := by
  simp only [groupedBy, List.mem_flatMap, List.mem_eraseDups, List.mem_map, List.mem_filter, beq_iff_eq]
  constructor
  · rintro ⟨d, -, hp, -⟩
    exact hp
  · exact fun hp => ⟨key p, ⟨p, hp, rfl⟩, hp, rfl⟩

theorem nodup_groupedBy {paths : List Text} (h : paths.Nodup) : (groupedBy key paths).Nodup := by
  rw [groupedBy, List.nodup_flatMap]
  refine ⟨fun d _ => h.filter _, (nodup_eraseDups _).imp ?_⟩
  intro d d' hne p hp hp'
  have hd : key p = d := by simpa using (List.mem_filter.1 hp).2
  have hd' : key p = d' := by simpa using (List.mem_filter.1 hp').2
  exact hne (hd.symm.trans hd')

/-- **Each path comes once.** -/
theorem perm_groupedBy {paths : List Text} (h : paths.Nodup) : (groupedBy key paths).Perm paths :=
  (List.perm_ext_iff_of_nodup (nodup_groupedBy h) h).2 fun _ => mem_groupedBy

/-- Of blocks of different keys, the paths with one key are a block. -/
theorem filter_flatMap_block {block : Text → List Text} {d : Text} : ∀ {ds : List Text}, ds.Nodup →
    (∀ d ∈ ds, ∀ p ∈ block d, key p = d) → d ∈ ds → ((ds.flatMap block).filter fun p => key p == d) = block d := by
  intro ds hnodup h hd
  induction ds with
  | nil => cases hd
  | cons e ds ih =>
    rw [List.nodup_cons] at hnodup
    rw [List.forall_mem_cons] at h
    rw [List.flatMap_cons, List.filter_append]
    -- the blocks of other keys leave nothing
    rcases List.mem_cons.1 hd with rfl | hd
    · have hown : ((block d).filter fun p => key p == d) = block d := by
        rw [List.filter_eq_self]
        intro p hp
        simpa using h.1 p hp
      have hothers : ((ds.flatMap block).filter fun p => key p == d) = [] := by
        rw [List.filter_eq_nil_iff]
        intro p hp heq
        obtain ⟨e, he, hp⟩ := List.mem_flatMap.1 hp
        rw [h.2 e he p hp] at heq
        exact hnodup.1 (eq_of_beq heq ▸ he)
      rw [hown, hothers, List.append_nil]
    · have hnone : ((block e).filter fun p => key p == d) = [] := by
        rw [List.filter_eq_nil_iff]
        intro p hp heq
        rw [h.1 p hp] at heq
        exact hnodup.1 (eq_of_beq heq ▸ hd)
      rw [hnone, List.nil_append, ih hnodup.2 h.2 hd]

/-- Empty blocks may be left out. -/
theorem flatMap_filled (block : Text → List Text) (ds : List Text) :
    (ds.filter fun d => !(block d).isEmpty).flatMap block = ds.flatMap block := by
  induction ds with
  | nil => rfl
  | cons d ds ih =>
    rw [List.filter_cons, List.flatMap_cons]
    cases hd : block d with
    | nil => simpa using ih
    | cons p ps => simp [hd, ih]

/-- Blocks of different keys are in their order. -/
theorem groupedBy_flatMap {ds : List Text} (hnodup : ds.Nodup) {block : Text → List Text}
    (h : ∀ d ∈ ds, ∀ p ∈ block d, key p = d) : groupedBy key (ds.flatMap block) = ds.flatMap block := by
  -- the keys are those with a block that is not empty
  have hkeys : ((ds.flatMap block).map key).eraseDups = ds.filter fun d => !(block d).isEmpty := by
    rw [List.map_flatMap, eraseDups_flatMap _ id]
    · simp only [List.isEmpty_map, List.map_id]
      exact eraseDups_of_nodup (hnodup.filter _)
    · intro d hd k hk
      obtain ⟨p, hp, rfl⟩ := List.mem_map.1 hk
      exact h d hd p hp
  rw [groupedBy, hkeys, List.flatMap_congr fun d hd => filter_flatMap_block hnodup h (List.mem_of_mem_filter hd)]
  exact flatMap_filled block ds

/-- **Paths in their order stay in it** when some are left out. -/
theorem groupedBy_filter (keep : Text → Bool) (paths : List Text) :
    groupedBy key ((groupedBy key paths).filter keep) = (groupedBy key paths).filter keep := by
  have hfilter : (groupedBy key paths).filter keep = (paths.map key).eraseDups.flatMap fun d =>
      (paths.filter fun p => key p == d).filter keep := by
    rw [groupedBy, List.filter_flatMap]
  rw [hfilter]
  refine groupedBy_flatMap (nodup_eraseDups _) fun d _ p hp => ?_
  simpa using (List.mem_filter.1 (List.mem_of_mem_filter hp)).2

/-- Paths in that order stay in it. -/
theorem groupedBy_groupedBy (paths : List Text) : groupedBy key (groupedBy key paths) = groupedBy key paths := by
  have hall := @groupedBy_filter key (fun _ => true) paths
  rwa [List.filter_true] at hall

end Order

end CastAudit.Listing
