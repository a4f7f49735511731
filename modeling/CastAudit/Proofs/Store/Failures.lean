import CastAudit.Proofs.Text.Characters
import CastAudit.Proofs.Text.Distinct
import CastAudit.Proofs.Text.Lines
import CastAudit.Store.Failures

/-!
# The failure list, written and read

* `IsListed p` — a path that a line of the list can hold;
* `failuresOf_unlines_eq` — such paths are read back, each once, and `failuresOf_unlines` — different ones as they were
  written;
* `failuresOf_ok` — what is read from any list, and `isListed_of_failuresOf` — all of it is of that kind, so it can be
  written again.
-/

namespace CastAudit.Store

/-- A path that a line of a failure list holds as it is. -/
structure IsListed (p : Text) : Prop where
  ne_nil : p ≠ []
  no_lf : Text.lf ∉ p
  trimmed : Text.trim p = p
  short : p.length < Lines.narrow

/-- The paths in a list: its lines without white space at their ends, each once and no empty one. -/
def listedIn (content : Text) : List Text := distinctFilled ((Lines.raw content).map Text.trim)

theorem nodup_distinctFilled (paths : List Text) : (distinctFilled paths).Nodup := nodup_eraseDups _

theorem mem_distinctFilled {paths : List Text} {p : Text} : p ∈ distinctFilled paths ↔ p ∈ paths ∧ p ≠ [] := by
  simp [distinctFilled, List.mem_eraseDups]

theorem distinctFilled_eq_self {paths : List Text} (hnodup : paths.Nodup) (h : ∀ p ∈ paths, p ≠ []) :
    distinctFilled paths = paths := by
  have hkeep : (paths.filter fun p => !p.isEmpty) = paths := by
    rw [List.filter_eq_self]
    intro p hp
    simpa using h p hp
  rw [distinctFilled, hkeep, eraseDups_of_nodup hnodup]

theorem distinctFilled_append (paths paths' : List Text) :
    distinctFilled (paths ++ paths') =
      distinctFilled paths ++ (distinctFilled paths').filter fun p => !(distinctFilled paths).contains p := by
  rw [distinctFilled, List.filter_append, eraseDups_append_eq]
  congr 2
  funext p
  simp only [distinctFilled, List.contains_eq_mem, List.mem_eraseDups]

/-- It does not matter whether repetitions are left out in parts before they are left out of the whole. -/
theorem distinctFilled_flatMap (parts : List (List Text)) :
    distinctFilled (parts.flatMap distinctFilled) = distinctFilled parts.flatten := by
  induction parts with
  | nil => rfl
  | cons paths parts ih =>
    have hself : distinctFilled (distinctFilled paths) = distinctFilled paths :=
      distinctFilled_eq_self (nodup_distinctFilled _) fun p hp => (mem_distinctFilled.1 hp).2
    rw [List.flatMap_cons, List.flatten_cons, distinctFilled_append, distinctFilled_append paths, hself, ih]

theorem dropReturn_of_trimmed {s : Text} (h : Text.trim s = s) : Lines.dropReturn s = s := by
  have hend := Text.dropEnd_of_trimmed h
  rw [Text.dropEnd_eq, List.rdropWhile_eq_self_iff] at hend
  unfold Lines.dropReturn
  rw [if_neg]
  intro hlast
  have hne : s ≠ [] := by
    rintro rfl
    cases hlast
  rw [List.getLast?_eq_getLast_of_ne_nil hne] at hlast
  exact hend hne (by simp [Option.some.inj hlast, Text.isLineEnd])

/-- **A list is read back**, each path once. -/
theorem failuresOf_unlines_eq (path : Text) {paths : List Text} (h : ∀ p ∈ paths, IsListed p) :
    failuresOf path (Text.unlines paths) = .ok (distinctFilled paths) := by
  have hraw : Lines.raw (Text.unlines paths) = paths := Lines.raw_unlines fun p hp => (h p hp).no_lf
  have hread : Lines.read Lines.narrow (Text.unlines paths) = ⟨paths.map Lines.dropReturn, false⟩ := by
    have hfits : ∀ line ∈ Lines.raw (Text.unlines paths), line.length < Lines.narrow := by
      rw [hraw]
      exact fun p hp => (h p hp).short
    rw [Lines.read_of_fits (by decide) hfits, hraw]
  have hlines : (paths.map Lines.dropReturn).map Text.trim = paths := by
    rw [List.map_map]
    conv_rhs => rw [← List.map_id paths]
    refine List.map_congr_left fun p hp => ?_
    rw [Function.comp_apply, dropReturn_of_trimmed (h p hp).trimmed, (h p hp).trimmed, id]
  simp only [failuresOf, hread, hlines]
  rfl

/-- **A list is read back as it was written**, if all its paths are different. -/
theorem failuresOf_unlines (path : Text) {paths : List Text} (hnodup : paths.Nodup) (h : ∀ p ∈ paths, IsListed p) :
    failuresOf path (Text.unlines paths) = .ok paths := by
  rw [failuresOf_unlines_eq path h, distinctFilled_eq_self hnodup fun p hp => (h p hp).ne_nil]

/-- **A list with a path that is too long for a line cannot be read.** -/
theorem failuresOf_of_long (path : Text) {paths : List Text} (hlf : ∀ p ∈ paths, Text.lf ∉ p) {p : Text} (hp : p ∈ paths)
    (hlong : Lines.narrow ≤ p.length) :
    failuresOf path (Text.unlines paths) = .error (.store path .cannotReadList (some .longLine)) := by
  have hraw : Lines.raw (Text.unlines paths) = paths := Lines.raw_unlines hlf
  have hfits : paths.all (Lines.fits Lines.narrow) = false := by
    rw [List.all_eq_false]
    exact ⟨p, hp, by simpa [Lines.fits] using hlong⟩
  rw [failuresOf, Lines.read_eq (by decide), hraw]
  simp [hfits]

theorem trim_dropReturn (line : Text) : Text.trim (Lines.dropReturn line) = Text.trim line := by
  unfold Lines.dropReturn
  split
  · next hlast =>
    conv_rhs => rw [← List.dropLast_append_getLast? _ hlast]
    exact (Text.trim_append_cr _).symm
  · rfl

/-- **What is read from a list**: it has no line that is too long, and its paths are given. -/
theorem failuresOf_ok {path content : Text} {failed : List Text} (h : failuresOf path content = .ok failed) :
    (∀ line ∈ Lines.raw content, line.length < Lines.narrow) ∧ failed = listedIn content := by
  rw [failuresOf, Lines.read_eq (by decide)] at h
  simp only at h
  split at h
  · cases h
  · next hall =>
    have hfits : ∀ line ∈ Lines.raw content, Lines.fits Lines.narrow line = true := by simpa using hall
    cases h
    refine ⟨fun line hline => by simpa [Lines.fits] using hfits line hline, ?_⟩
    rw [List.takeWhile_eq_self_iff.2 hfits, List.map_map, listedIn]
    exact congrArg distinctFilled (List.map_congr_left fun line _ => trim_dropReturn line)

theorem listedIn_unlines {paths : List Text} (hnodup : paths.Nodup) (h : ∀ p ∈ paths, IsListed p) :
    listedIn (Text.unlines paths) = paths :=
  (failuresOf_ok (failuresOf_unlines [] hnodup h)).2.symm

theorem isListed_of_failuresOf {path content : Text} {failed : List Text} (h : failuresOf path content = .ok failed) :
    failed.Nodup ∧ ∀ p ∈ failed, IsListed p := by
  obtain ⟨hshort, rfl⟩ := failuresOf_ok h
  refine ⟨nodup_distinctFilled _, fun p hp => ?_⟩
  obtain ⟨hmem, hne⟩ := mem_distinctFilled.1 hp
  obtain ⟨line, hline, rfl⟩ := List.mem_map.1 hmem
  have hsub := Text.trim_sublist line
  exact ⟨hne, fun hlf => Lines.no_lf_of_mem_raw hline (hsub.mem hlf), Text.trim_trim _,
    hsub.length_le.trans_lt (hshort line hline)⟩

end CastAudit.Store
