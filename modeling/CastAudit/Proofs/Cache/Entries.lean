import CastAudit.Proofs.Cache.Keys
import CastAudit.Proofs.Run.Order

/-!
# What a cache holds

Every entry that a cache gives for a log is the entry of the log's own clean scan. That is an invariant of the
memory and of the files, which every operation of a worker keeps.

* `Visit` — a log with its content under a profile, and `Visit.entry`, the entry of its scan; `visitsIn` has the visits
  of a listing;
* `Faithful visits` — the digests of some visits do not collide and their entries can be read back;
* `Holding directory good` — all that a cache has for visits is good, on the world that the workers share;
* `lookUp_holding`, `store_holding`, `visitCached_holding` — looking up, storing and visiting keep it so, whatever other
  workers do in between. `visitCached_cases` has what a visit answers;
* `Kept directory visits` — the invariant, which is `Holding` the right entries;
* `visit_transparent` — a visit keeps it and answers as it would without a cache.
-/

namespace CastAudit

open Disk (Machine)

/-- The outcome without what it says of the cache. -/
def Outcome.uncached (o : Outcome) : Outcome := { o with cached := false, cacheFault := none }

namespace Run

/-! ## visits -/

/-- A log with its content, visited under a profile. -/
structure Visit where
  profile : Profile
  job : Job
  content : Text

namespace Visit

/-- The text that is digested to the key. -/
def input (v : Visit) : Text := Cache.keyInput v.profile.name v.job.packageId v.job.path v.content

/-- The key in the cache. -/
def key (v : Visit) : Text := Cache.key v.profile.name v.job.packageId v.job.path v.content

theorem isKey (v : Visit) : Cache.IsKey v.key := Cache.isKey_key ..

/-- The scan of the log. -/
def scan (v : Visit) : Scan × Option Fault := scanLog v.profile v.job v.content

/-- The entry of the scan, with the current version. -/
def entry (v : Visit) : Cache.Entry := { entryOf v.scan.1 with schema := Cache.schemaVersion }

/-- The profile is a known one, and no zero byte can be taken for the end of the package or the path. -/
structure Proper (v : Visit) : Prop where
  profile : v.profile ∈ Profile.all
  packageId : 0 ∉ v.job.packageId
  path : 0 ∉ v.job.path

end Visit

/-- The log of the visit is one of a listing, and reads as the visit has it. -/
structure Visit.Among (read : Text → Except Disk.Error Text) (profile : Profile) (listing : Listing) (v : Visit) :
    Prop where
  profile : v.profile = profile
  job : v.job ∈ listing.jobs
  content : read v.job.path = .ok v.content

/-- The visits of the logs of a listing that can be read. -/
def visitsIn (read : Text → Except Disk.Error Text) (profile : Profile) (listing : Listing) : List Visit :=
  listing.jobs.filterMap fun job => (read job.path).toOption.map fun content => ⟨profile, job, content⟩

theorem mem_visitsIn {read : Text → Except Disk.Error Text} {profile : Profile} {listing : Listing} {v : Visit} :
    v ∈ visitsIn read profile listing ↔ v.Among read profile listing := by
  constructor
  · intro h
    obtain ⟨job, hjob, hv⟩ := List.mem_filterMap.1 h
    cases hread : read job.path with
    | error e =>
      rw [hread] at hv
      cases hv
    | ok content =>
      rw [hread] at hv
      cases hv
      exact ⟨rfl, hjob, hread⟩
  · rintro ⟨rfl, hjob, hcontent⟩
    exact List.mem_filterMap.2 ⟨v.job, hjob, by rw [hcontent]; rfl⟩

/-- The digests of some visits do not collide, and unpacking gives their entries back. -/
structure Faithful (visits : Visit → Prop) : Prop where
  collisionFree : ∀ v v', visits v → visits v' → Digest.sha256 v.input = Digest.sha256 v'.input → v.input = v'.input
  roundTrip : ∀ v, visits v → isClean v.scan = true → Cache.Entry.unpack? v.entry.pack = some v.entry

theorem profile_eq_of_name : ∀ p ∈ Profile.all, 0 ∉ p.name ∧ ∀ p' ∈ Profile.all, p.name = p'.name → p = p' := by
  decide

/-- **A key belongs to one visit.** -/
theorem Faithful.eq_of_key {visits : Visit → Prop} (hf : Faithful visits) {v v' : Visit} (hv : visits v)
    (hv' : visits v') (hp : v.Proper) (hp' : v'.Proper) (h : v.key = v'.key) : v = v' := by
  have hinput := hf.collisionFree v v' hv hv' (Cache.hexBytes_injective h)
  obtain ⟨hname, hpackage, hpath, hcontent⟩ := Cache.keyInput_injective (profile_eq_of_name _ hp.profile).1
    (profile_eq_of_name _ hp'.profile).1 hp.packageId hp'.packageId hp.path hp'.path hinput
  have hprofile := (profile_eq_of_name _ hp.profile).2 _ hp'.profile hname
  obtain ⟨profile, ⟨packageId, path⟩, content⟩ := v
  obtain ⟨profile', ⟨packageId', path'⟩, content'⟩ := v'
  simp only at hprofile hpackage hpath hcontent
  rw [hprofile, hpackage, hpath, hcontent]

/-! ## the invariant -/

/-- The file of a key holds an entry of the current version. -/
def Stored (machine : Machine) (directory key : Text) (entry : Cache.Entry) : Prop :=
  directory ≠ [] ∧ ∃ bytes, machine.tree.readFile (Cache.fileOf directory key) = .ok bytes ∧
    Cache.Entry.unpack? bytes = some entry ∧ entry.schema = Cache.schemaVersion

/-- The entry is that of a visit whose scan is clean. -/
def Right (v : Visit) (entry : Cache.Entry) : Prop := isClean v.scan = true ∧ entry = v.entry

/-- **The invariant of a cache.** Whatever the memory or the files have for the key of a visit is the entry of its
clean scan. -/
structure Kept (directory : Text) (visits : Visit → Prop) (w : World) : Prop where
  memory : ∀ v, visits v → v.Proper → ∀ entry, (v.key, entry) ∈ w.recent.items → Right v entry
  files : ∀ v, visits v → v.Proper → ∀ entry, Stored w.machine directory v.key entry → Right v entry
  tree : w.machine.tree.WellFormed

/-- What the memory and the files of a cache have for visits is good. -/
structure Holding (directory : Text) (good : Visit → Cache.Entry → Prop) (w : World) : Prop where
  memory : ∀ v entry, (v.key, entry) ∈ w.recent.items → good v entry
  files : ∀ v entry, Stored w.machine directory v.key entry → good v entry
  tree : w.machine.tree.WellFormed

/-- The invariant holds when the entries of some visits are right. -/
theorem kept_iff_holding {directory : Text} {visits : Visit → Prop} {w : World} :
    Kept directory visits w ↔ Holding directory (fun v entry => visits v → v.Proper → Right v entry) w :=
  ⟨fun h => ⟨fun v entry hmem hv hp => h.memory v hv hp entry hmem,
      fun v entry hstored hv hp => h.files v hv hp entry hstored, h.tree⟩,
    fun h => ⟨fun v hv hp entry hmem => h.memory v entry hmem hv hp,
      fun v hv hp entry hstored => h.files v entry hstored hv hp, h.tree⟩⟩

theorem mem_touch {α : Type} {r : Cache.Recent α} {key key' : Text} {a a' : α}
    (h : (key', a') ∈ (r.touch key a).items) : (key' = key ∧ a' = a) ∨ (key', a') ∈ r.items := by
  rcases List.mem_cons.1 (List.mem_of_mem_take h) with h | h
  · exact .inl (Prod.mk.inj h)
  · exact .inr (List.mem_of_mem_filter h)

theorem mem_of_value? {α : Type} {r : Cache.Recent α} {key : Text} {a : α} (h : r.value? key = some a) :
    (key, a) ∈ r.items := by
  obtain ⟨front, back, hitems, -⟩ := List.lookup_eq_some_iff.1 h
  simp [hitems]

section Holding

variable {directory : Text} {good : Visit → Cache.Entry → Prop} {w : World} (hw : Holding directory good w) {v : Visit}
include hw

/-- An entry that is good for all visits with its key may be taken into memory. -/
theorem Holding.touch {entry : Cache.Entry} (hgood : ∀ v', v'.key = v.key → good v' entry) :
    Holding directory good { w with recent := w.recent.touch v.key entry } where
  memory v' entry' hmem := by
    rcases mem_touch hmem with ⟨hkey, rfl⟩ | hmem
    · exact hgood v' hkey
    · exact hw.memory v' entry' hmem
  files := hw.files
  tree := hw.tree

/-- Bytes may be saved, if what they are unpacked to is good for all visits with the key. -/
theorem Holding.save (hd : directory ≠ []) {bytes : Text}
    (hgood : ∀ entry, Cache.Entry.unpack? bytes = some entry → ∀ v', v'.key = v.key → good v' entry) :
    Holding directory good { w with machine := { w.machine with
      tree := w.machine.tree.save (Cache.fileOf directory v.key) bytes } } where
  memory := hw.memory
  files v' entry hstored := by
    obtain ⟨-, bytes', hread, hunpack, hschema⟩ := hstored
    obtain ⟨front, hparts⟩ := (Cache.parts_fileOf hd v.isKey).1
    obtain ⟨front', hparts'⟩ := (Cache.parts_fileOf hd v'.isKey).1
    rcases Disk.Tree.readFile_save hw.tree hparts (Cache.isName_fileName v.isKey) hparts'
      (Cache.isName_fileName v'.isKey) (Cache.temporaryName_ne_fileName v'.isKey) hread with hbefore | ⟨hname, rfl⟩
    · exact hw.files v' entry ⟨hd, bytes', hbefore, hunpack, hschema⟩
    · exact hgood entry hunpack v' (Cache.fileName_injective hname)
  tree := by
    obtain ⟨front, hparts⟩ := (Cache.parts_fileOf hd v.isKey).1
    exact Disk.Tree.wellFormed_save hw.tree _ hparts (Cache.isName_fileName v.isKey)

end Holding

/-! ## outcomes -/

/-- A right entry answers as the scan does. -/
theorem uncached_ofEntry {v : Visit} {entry : Cache.Entry} (h : Right v entry) :
    (Outcome.ofEntry entry).uncached = Outcome.ofScan v.scan.1 none := by
  obtain ⟨hclean, rfl⟩ := h
  have hfailures : v.scan.1.failures = [] := by simpa using (Bool.and_eq_true_iff.1 hclean).2
  simp [Outcome.ofEntry, Outcome.uncached, Outcome.ofScan, Visit.entry, entryOf, hfailures]

/-! ## what a worker does -/

theorem Program.run_bind {W α β : Type} (p : Program W α) (f : α → Program W β) (w : W) :
    (p >>= f).run w = (f (p.run w).1).run (p.run w).2 := by
  induction p generalizing w with
  | done a => rfl
  | step next rest ih => exact ih w (next w)

/-- Saving changes the tree alone. -/
theorem run_save (w : World) (target bytes : Text) :
    ((Cache.save target bytes : Program World _).run w).2 =
      { w with machine := { w.machine with tree := w.machine.tree.save target bytes } } := by
  have hwrite : (Disk.Host.writeTemporary (Path.directory target) "tmp-" bytes : Program World _).run w =
      ((w.machine.tree.writeTemporary (Path.directory target) "tmp-" bytes).1,
        { w with machine := { w.machine with
          tree := (w.machine.tree.writeTemporary (Path.directory target) "tmp-" bytes).2 } }) := rfl
  unfold Cache.save Disk.Tree.save
  rw [Program.run_bind, hwrite]
  cases w.machine.tree.writeTemporary (Path.directory target) "tmp-" bytes with
  | mk answer t =>
    cases answer with
    | error e => rfl
    | ok source =>
      have hrename : (Disk.Host.rename source target : Program World _).run
          { w with machine := { w.machine with tree := t } } =
        ((t.rename source target).1, { w with machine := { w.machine with tree := (t.rename source target).2 } }) := rfl
      simp only
      rw [Program.run_bind, hrename]
      cases t.rename source target with
      | mk answer t =>
        cases answer with
        | error e => rfl
        | ok u => rfl

section Worker

variable {known : World → Prop} {directory : Text} {good : Visit → Cache.Entry → Prop} {v : Visit}

/-- **What looking up finds is good**, if it is good for all visits with the key as soon as it is good for one. -/
theorem lookUp_holding (hkey : ∀ entry, good v entry → ∀ v', v'.key = v.key → good v' entry) :
    (Cache.lookUp directory v.key : Program World _).Keeps known (Holding directory good)
      fun answer => ∀ entry, answer = .ok (some entry) → good v entry := by
  refine Program.keeps_bind (Program.keeps_act fun w _ hw => ?_)
  cases hrecall : w.recent.value? v.key with
  | some entry =>
    have hgood := hw.memory v entry (mem_of_value? hrecall)
    refine ⟨hw.touch (hkey entry hgood), fun entry' h => ?_⟩
    cases h
    exact hgood
  | none =>
    refine ⟨hw, ?_⟩
    simp only
    split
    · exact fun entry h => by cases h
    · next hd =>
      refine Program.keeps_bind (keeps_readFile fun w _ hw => ?_)
      cases hfile : w.machine.tree.readFile (Cache.fileOf directory v.key) with
      | error e =>
        intro entry h
        split at h <;> cases h
      | ok bytes =>
        simp only
        cases hunpack : Cache.Entry.unpack? bytes with
        | none => exact fun entry h => by cases h
        | some entry =>
          simp only
          split
          · next hschema =>
            -- what a file holds is taken into the memory
            have hgood := hw.files v entry ⟨by simpa using hd, bytes, hfile, hunpack, hschema⟩
            refine Program.keeps_bind (Program.keeps_act fun w _ hw => ⟨hw.touch (hkey entry hgood), fun entry' h => ?_⟩)
            cases h
            exact hgood
          · exact fun entry h => by cases h

/-- **The entry of a scan may be stored**, if it is good for all visits with the key, and so is what it is unpacked to
after it was packed. -/
theorem store_holding (hentry : ∀ v', v'.key = v.key → good v' v.entry)
    (hpacked : ∀ entry, Cache.Entry.unpack? v.entry.pack = some entry → ∀ v', v'.key = v.key → good v' entry) :
    (Cache.store directory v.key (entryOf v.scan.1) : Program World _).Keeps known (Holding directory good)
      fun _ => True := by
  refine Program.keeps_bind (Program.keeps_act fun w _ hw => ⟨hw.touch hentry, ?_⟩)
  split
  · trivial
  · next hd =>
    refine Program.keeps_act fun w _ hw => ⟨?_, trivial⟩
    rw [run_save]
    exact hw.save (by simpa using hd) hpacked

/-- **A visit of a log that is there** answers with an entry that was found or with the scan, and keeps what looking up
and storing keep. -/
theorem visitCached_cases {kept : World → Prop} {found : Cache.Entry → Prop}
    (hlookUp : (Cache.lookUp directory v.key : Program World _).Keeps known kept
      fun answer => ∀ entry, answer = .ok (some entry) → found entry)
    (hstore : isClean v.scan = true →
      (Cache.store directory v.key (entryOf v.scan.1) : Program World _).Keeps known kept fun _ => True) :
    (visitCached v.profile directory v.job v.content : Program World _).Keeps known kept
      fun o => (∃ entry, found entry ∧ o = Outcome.ofEntry entry) ∨ ∃ fault, o = Outcome.ofScan v.scan.1 fault := by
  refine Program.keeps_bind (hlookUp.imp fun answer hanswer => ?_)
  -- an answer without an entry, whether a fault or not, leads to a scan
  have hscan (fault : Option Fault) (faultAfter : Except Fault Unit → Option Fault) : (show Program World Outcome from
      if isClean v.scan then do
        let stored ← Cache.store directory v.key (entryOf v.scan.1)
        return Outcome.ofScan v.scan.1 (faultAfter stored)
      else return Outcome.ofScan v.scan.1 fault).Keeps known kept
      fun o => (∃ entry, found entry ∧ o = Outcome.ofEntry entry) ∨ ∃ fault, o = Outcome.ofScan v.scan.1 fault := by
    split
    · next h => exact Program.keeps_bind ((hstore h).imp fun _ _ => .inr ⟨_, rfl⟩)
    · exact .inr ⟨_, rfl⟩
  cases answer with
  | error fault => exact hscan (some fault) _
  | ok found =>
    cases found with
    | none => exact hscan none _
    | some entry => exact .inl ⟨entry, hanswer entry rfl, rfl⟩

/-- Such a visit finds good entries alone, if that of its own scan is good. -/
theorem visitCached_holding (hkey : ∀ entry, good v entry → ∀ v', v'.key = v.key → good v' entry)
    (hclean : isClean v.scan = true → good v v.entry)
    (hpacked : isClean v.scan = true → ∀ entry, Cache.Entry.unpack? v.entry.pack = some entry → good v entry) :
    (visitCached v.profile directory v.job v.content : Program World _).Keeps known (Holding directory good)
      fun o => (∃ entry, good v entry ∧ o = Outcome.ofEntry entry) ∨ ∃ fault, o = Outcome.ofScan v.scan.1 fault :=
  visitCached_cases (lookUp_holding hkey) fun h =>
    store_holding (hkey _ (hclean h)) fun entry hunpack => hkey entry (hpacked h entry hunpack)

/-- **A visit of a log that is there keeps the invariant**, answers as the scan does and takes only a clean scan from
the cache. -/
theorem visitCached_keeps {visits : Visit → Prop} (hf : Faithful visits) (hv : visits v) (hp : v.Proper) :
    (visitCached v.profile directory v.job v.content : Program World _).Keeps known (Kept directory visits)
      fun o => o.uncached = Outcome.ofScan v.scan.1 none ∧ (o.cached = true → isClean v.scan = true) := by
  have hkept : Kept directory visits = Holding directory fun v entry => visits v → v.Proper → Right v entry :=
    funext fun _ => propext kept_iff_holding
  rw [hkept]
  refine (visitCached_holding ?_ ?_ ?_).imp ?_
  · intro entry hright v' hkey hv' hp'
    exact hf.eq_of_key hv' hv hp' hp hkey ▸ hright hv hp
  · exact fun hclean _ _ => ⟨hclean, rfl⟩
  · intro hclean entry hunpack _ _
    rw [hf.roundTrip v hv hclean] at hunpack
    exact ⟨hclean, (Option.some.inj hunpack).symm⟩
  · rintro o (⟨entry, hright, rfl⟩ | ⟨fault, rfl⟩)
    · exact ⟨uncached_ofEntry (hright hv hp), fun _ => (hright hv hp).1⟩
    · exact ⟨rfl, fun h => by cases h⟩

end Worker

/-- The outcome of a log under a function that reads files, but for what it says of the cache. Only a clean scan is
taken from the cache. -/
def Transparent (read : Text → Except Disk.Error Text) (profile : Profile) (job : Job) (o : Outcome) : Prop :=
  o.uncached = Outcome.plain read profile job ∧
    (o.cached = true → ∃ content, read job.path = .ok content ∧ isClean (scanLog profile job content) = true)

/-- **A visit keeps the invariant**, and the cache does not show in what it answers. -/
theorem visit_transparent {known : World → Prop} {directory : Text} {visits : Visit → Prop} (hf : Faithful visits)
    {profile : Profile} (hprofile : profile ∈ Profile.all) {job : Job} (hpackage : 0 ∉ job.packageId)
    {read : Text → Except Disk.Error Text}
    (hread : ∀ w, known w → w.machine.tree.readFile job.path = read job.path)
    (hvisits : ∀ content, read job.path = .ok content → visits ⟨profile, job, content⟩) :
    (visit profile (some directory) job : Program World Outcome).Keeps known (Kept directory visits)
      (Transparent read profile job) := by
  refine Program.keeps_bind (keeps_readFile fun w hknown hw => ?_)
  rw [hread w hknown]
  cases hr : read job.path with
  | error e =>
    refine ⟨?_, fun h => ?_⟩
    · simp only [Outcome.plain, hr]
      split <;> rfl
    · split at h <;> cases h
  | ok content =>
    -- a path that can be read holds no zero byte
    have hpath : 0 ∉ job.path := (Disk.Tree.readFile_eq_ok.1 ((hread w hknown).trans hr)).1.2.1
    refine (visitCached_keeps hf (hvisits content hr) ⟨hprofile, hpackage, hpath⟩).imp fun o ho => ⟨?_, fun h => ?_⟩
    · simp only [Outcome.plain, hr]
      exact ho.1
    · exact ⟨content, hr, ho.2 h⟩

/-! ## the steps of a visit -/

section Steps

variable (directory key : Text)

theorem lookUp_endsWithin : (Cache.lookUp directory key : Program World _).EndsWithin 3 := by
  refine Program.endsWithin_bind (Program.endsWithin_act _) (k := 2) fun recalled => ?_
  cases recalled with
  | some entry => trivial
  | none =>
    simp only
    split
    · trivial
    · refine Program.endsWithin_bind (Program.endsWithin_act _) (k := 1) fun answer => ?_
      cases answer with
      | error e => trivial
      | ok bytes =>
        simp only
        cases Cache.Entry.unpack? bytes with
        | none => trivial
        | some entry =>
          simp only
          split
          · exact Program.endsWithin_bind (Program.endsWithin_act _) (k := 0) fun _ => trivial
          · trivial

theorem store_endsWithin (entry : Cache.Entry) : (Cache.store directory key entry : Program World _).EndsWithin 2 := by
  refine Program.endsWithin_bind (Program.endsWithin_act _) (k := 1) fun _ => ?_
  split
  · trivial
  · exact Program.endsWithin_act _

theorem visit_some_endsWithin (profile : Profile) (job : Job) :
    (visit profile (some directory) job : Program World Outcome).EndsWithin 6 := by
  refine Program.endsWithin_bind (Program.endsWithin_act _) (k := 5) fun answer => ?_
  cases answer with
  | error e => trivial
  | ok content =>
    refine Program.endsWithin_bind (lookUp_endsWithin directory _) (k := 2) fun answer => ?_
    have hscan (p : Program World Outcome) (hp : p.EndsWithin 2) (o : Outcome) (clean : Bool) :
        (if clean then p else return o : Program World Outcome).EndsWithin 2 := by
      cases clean
      · trivial
      · exact hp
    have hstore (f : Except Fault Unit → Outcome) (key : Text) (entry : Cache.Entry) :
        (do return f (← Cache.store directory key entry) : Program World Outcome).EndsWithin 2 :=
      Program.endsWithin_bind (store_endsWithin directory key entry) (k := 0) fun _ => trivial
    cases answer with
    | error fault => exact hscan _ (hstore _ _ _) _ _
    | ok found =>
      cases found with
      | none => exact hscan _ (hstore _ _ _) _ _
      | some entry => trivial

end Steps

end Run

end CastAudit
