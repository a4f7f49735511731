import CastAudit.Proofs.Cache.Entries

/-!
# When two logs have one key

The text that is digested to a key ends each of profile, package and path with a zero byte. Profiles have none, paths
need none, and what stands in the content does not matter. A package may have one, since a listing looks for commas and
path separators only: then the package can be read as a shorter one, with the rest of it as path and content.

* `append_zero_cases` — a text that is parted at a zero byte in two ways;
* `Visit.ReadsAs v v'` — the input of `v` is that of `v'`, whose package reaches over the end of that of `v`;
* `input_injective_iff` — inputs are equal for equal visits and these only, and packages without zero bytes are safe;
* `confused_packages` — two packages of one listing with the same key.
-/

namespace CastAudit.Run

/-- Where a text is parted at zero bytes in two ways, one of the first parts ends at a zero byte of the other. -/
theorem append_zero_cases {a a' b b' : Text} (h : a ++ 0 :: b = a' ++ 0 :: b') :
    (a = a' ∧ b = b') ∨ (∃ tail, a' = a ++ 0 :: tail ∧ b = tail ++ 0 :: b') ∨
      ∃ tail, a = a' ++ 0 :: tail ∧ b' = tail ++ 0 :: b := by
  rcases List.append_eq_append_iff.1 h with ⟨mid, ha, hb⟩ | ⟨mid, ha, hb⟩
  · cases mid with
    | nil => exact .inl ⟨by simpa using ha.symm, (List.cons.inj hb).2⟩
    | cons c tail =>
      obtain ⟨rfl, hrest⟩ := List.cons.inj hb
      exact .inr (.inl ⟨tail, ha, hrest⟩)
  · cases mid with
    | nil => exact .inl ⟨by simpa using ha, (List.cons.inj hb).2.symm⟩
    | cons c tail =>
      obtain ⟨rfl, hrest⟩ := List.cons.inj hb
      exact .inr (.inr ⟨tail, ha, hrest⟩)

namespace Visit

/-- The path and the content of a visit can be read as the rest of a longer package, its path and its content. -/
structure ReadsAs (v v' : Visit) : Prop where
  profile : v.profile = v'.profile
  package : ∃ tail, v'.job.packageId = v.job.packageId ++ 0 :: tail ∧
    v.job.path ++ 0 :: v.content = tail ++ 0 :: (v'.job.path ++ 0 :: v'.content)

variable {v v' : Visit}

theorem input_eq (v : Visit) :
    v.input = v.profile.name ++ 0 :: (v.job.packageId ++ 0 :: (v.job.path ++ 0 :: v.content)) :=
  Cache.keyInput_eq ..

theorem ReadsAs.input_eq (h : v.ReadsAs v') : v.input = v'.input := by
  obtain ⟨hprofile, tail, hpackage, hrest⟩ := h
  rw [Visit.input_eq, Visit.input_eq, hprofile, hpackage, hrest]
  simp

theorem ReadsAs.zero_mem (h : v.ReadsAs v') : 0 ∈ v'.job.packageId := by
  obtain ⟨tail, hpackage, -⟩ := h.package
  rw [hpackage]
  simp

/-- **Equal inputs** are those of one visit, or of two of which one reads as the other. -/
theorem cases_of_input_eq (hv : v.profile ∈ Profile.all) (hv' : v'.profile ∈ Profile.all) (hpath : 0 ∉ v.job.path)
    (hpath' : 0 ∉ v'.job.path) (h : v.input = v'.input) : v = v' ∨ v.ReadsAs v' ∨ v'.ReadsAs v := by
  obtain ⟨hzero, hnames⟩ := profile_eq_of_name v.profile hv
  obtain ⟨hzero', -⟩ := profile_eq_of_name v'.profile hv'
  rw [input_eq, input_eq] at h
  obtain ⟨hname, hrest⟩ := Cache.append_zero_inj hzero hzero' h
  have hprofile := hnames v'.profile hv' hname
  -- the first zero byte behind the profile may stand within one of the packages
  rcases append_zero_cases hrest with ⟨hpackage, hrest⟩ | ⟨tail, hpackage, hrest⟩ | ⟨tail, hpackage, hrest⟩
  · obtain ⟨hlog, hcontent⟩ := Cache.append_zero_inj hpath hpath' hrest
    obtain ⟨profile, ⟨packageId, path⟩, content⟩ := v
    obtain ⟨profile', ⟨packageId', path'⟩, content'⟩ := v'
    simp only at hprofile hpackage hlog hcontent
    left
    rw [hprofile, hpackage, hlog, hcontent]
  · exact .inr (.inl ⟨hprofile, tail, hpackage, hrest⟩)
  · exact .inr (.inr ⟨hprofile.symm, tail, hpackage, hrest⟩)

/-- **Keys tell logs apart, but for zero bytes in packages.** The texts digested for two logs are equal exactly if
profile, package, path and content are, or if one log reads as the other, the package of which then holds a zero byte. So
without such packages, and if the two digests do not collide, a key belongs to one log. -/
theorem input_injective_iff (hv : v.profile ∈ Profile.all) (hv' : v'.profile ∈ Profile.all) (hpath : 0 ∉ v.job.path)
    (hpath' : 0 ∉ v'.job.path) :
    (v.input = v'.input ↔ v = v' ∨ v.ReadsAs v' ∨ v'.ReadsAs v) ∧
    (0 ∉ v.job.packageId → 0 ∉ v'.job.packageId → (v.input = v'.input ↔ v = v') ∧
      ((Digest.sha256 v.input = Digest.sha256 v'.input → v.input = v'.input) → (v.key = v'.key ↔ v = v'))) := by
  have hcases := cases_of_input_eq hv hv' hpath hpath'
  refine ⟨⟨hcases, ?_⟩, fun hid hid' => ?_⟩
  · rintro (rfl | h | h)
    · rfl
    · exact h.input_eq
    · exact h.input_eq.symm
  · have hinj : v.input = v'.input → v = v' := by
      intro h
      rcases hcases h with heq | hreads | hreads
      · exact heq
      · exact absurd hreads.zero_mem hid'
      · exact absurd hreads.zero_mem hid
    refine ⟨⟨hinj, fun heq => heq ▸ rfl⟩, fun hfree => ⟨fun hkey => ?_, fun heq => heq ▸ rfl⟩⟩
    exact hinj (hfree (Cache.hexBytes_injective hkey))

/-- Two logs whose packages and paths read the same when they are joined, and whose contents hold zero bytes. -/
theorem input_injective_joined :
    let v : Visit := ⟨⟨"cast", [.cast], "cast.log"⟩, ⟨"a", "bc"⟩, [0x78, 0]⟩
    let v' : Visit := ⟨⟨"cast", [.cast], "cast.log"⟩, ⟨"ab", "c"⟩, [0x78, 0]⟩
    v.profile ∈ Profile.all ∧ v'.profile ∈ Profile.all ∧ 0 ∉ v.job.path ∧ 0 ∉ v'.job.path ∧ 0 ∉ v.job.packageId ∧
      0 ∉ v'.job.packageId ∧ (Digest.sha256 v.input = Digest.sha256 v'.input → v.input = v'.input) ∧
      ¬ v.ReadsAs v' ∧ v.input ≠ v'.input ∧ v.key ≠ v'.key := by
  intro v v'
  have hv : v.profile ∈ Profile.all := List.mem_cons_of_mem _ (List.mem_cons_self ..)
  have hid : 0 ∉ v.job.packageId := by decide
  have hid' : 0 ∉ v'.job.packageId := by decide
  have hfree : Digest.sha256 v.input = Digest.sha256 v'.input → v.input = v'.input := by decide +kernel
  obtain ⟨hiff, hplain⟩ := @input_injective_iff v v' hv hv (by decide) (by decide)
  obtain ⟨hinput, hkey⟩ := hplain hid hid'
  have hne : v ≠ v' := fun h => absurd (congrArg (fun u : Visit => u.job.path) h) (by decide)
  have hapart : v.input ≠ v'.input := fun h => hne (hinput.1 h)
  exact ⟨hv, hv, by decide, by decide, hid, hid', hfree, fun h => hapart (hiff.2 (.inr (.inl h))), hapart,
    fun h => hne ((hkey hfree).1 h)⟩

/-- **Two packages of one listing with the same key.** Both are accepted, and the log of each is scanned under the same
profile, but a zero byte in one package reads as the end of the other. Their entries differ. -/
theorem confused_packages :
    let header : Text := "warning: Here is cast(f > A > B => mut > n)\n --> a.rs:1:1\n"
    let v : Visit := ⟨⟨"cast", [.cast], "cast.log"⟩, ⟨"p\x00q", "a/lint.log"⟩, header⟩
    let v' : Visit := ⟨⟨"cast", [.cast], "cast.log"⟩, ⟨"p", "q"⟩, "a/lint.log\x00" ++ header⟩
    let listing : Listing := [⟨"p\x00q", ["a/lint.log"]⟩, ⟨"p", ["q"]⟩]
    (Listing.ofContent "l.txt" "p\x00q,a/lint.log\np,q\n").toOption = some listing ∧ listing.jobs = [v.job, v'.job] ∧
      (∀ package ∈ listing.packages, package.brokenRules = []) ∧ v.profile ∈ Profile.all ∧ 0 ∉ v.job.path ∧
      0 ∉ v'.job.path ∧ v'.profile = v.profile ∧ v.job ≠ v'.job ∧ v.content ≠ v'.content ∧ v.input = v'.input ∧
      v.key = v'.key ∧ v.entry ≠ v'.entry := by
  intro header v v' listing
  have hinput : v.input = v'.input := by decide +kernel
  have hkey : v.key = v'.key := congrArg (fun input => Text.hexBytes (Digest.sha256 input)) hinput
  have hprofile : v.profile ∈ Profile.all := List.mem_cons_of_mem _ (List.mem_cons_self ..)
  have hcontent : v.content ≠ v'.content := by decide +kernel
  have hentry : v.entry ≠ v'.entry := by decide +kernel
  exact ⟨by decide +kernel, by decide +kernel, by decide +kernel, hprofile, by decide, by decide, rfl, by decide,
    hcontent, hinput, hkey, hentry⟩

end Visit

end CastAudit.Run
