import CastAudit.Proofs.Disk.Opening
import CastAudit.Proofs.Listing.Grouping
import CastAudit.Proofs.Store.Failures
import CastAudit.Proofs.Text.Separators
import Mathlib.Order.Nat

/-!
# Listing files

A listing file names a log on each of its lines, behind its package, and the packages may come in any mixture.

* `IsRelevant line`, `jobOn line`, `IsMalformed line` — what one line says;
* `BadAt lines i` — the line with index `i` cannot stand below the lines above it, and `faultOn` — what is reported;
* `Gathers lines listing` — the listing has every log of the lines, with its own package and in their order;
* `addLine_gathered` — one line is added or reported, whatever stands above it;
* `load_exact` — a file is refused exactly if it has a bad line, at the first; else nothing of it is lost;
* `isListed_of_load` — all logs of a listing that was loaded can stand in a failure list.
-/

namespace CastAudit.Listing

open Disk (Machine)

/-! ## lines -/

/-- A line that is neither blank nor a comment. -/
def IsRelevant (line : Text) : Prop := Text.trim line ≠ [] ∧ (Text.trim line).head? ≠ some 0x23
deriving Decidable

/-- The log that a line names: what stands behind its first comma, for the package before it. -/
def jobOn (line : Text) : Job :=
  let line := Text.trim line
  ⟨Text.trim (line.takeWhile (· != Text.comma)), Text.trim ((line.dropWhile (· != Text.comma)).drop 1)⟩

/-- A line without a comma, or with nothing before or behind the first. -/
def IsMalformed (line : Text) : Prop :=
  Text.comma ∉ Text.trim line ∨ (jobOn line).packageId = [] ∨ (jobOn line).path = []
deriving Decidable

/-- The logs that some lines name. -/
def jobsIn (lines : List Text) : List Job := (lines.filter (IsRelevant ·)).map jobOn

/-- A line cannot stand below others: it is malformed, or the first with a package that breaks a rule. -/
def BadBelow (front : List Text) (line : Text) : Prop :=
  IsRelevant line ∧ (IsMalformed line ∨
    (Package.ofId (jobOn line).packageId).brokenRules ≠ [] ∧
      (jobOn line).packageId ∉ (jobsIn front).map Job.packageId)
deriving Decidable

/-- The line with an index cannot stand below those above it. -/
def BadAt (lines : List Text) (i : Nat) : Prop := ∃ line ∈ lines[i]?, BadBelow (lines.take i) line
deriving Decidable

theorem BadAt.lt_length {lines : List Text} {i : Nat} (h : BadAt lines i) : i < lines.length := by
  obtain ⟨line, hline, -⟩ := h
  exact (List.getElem?_eq_some_iff.1 hline).1

/-- What is reported of a bad line in the file at `path`. -/
def faultOn (path line : Text) (number : Nat) : Fault :=
  if IsMalformed line then .listing path (.badLine number) none
  else .listing path (.badPackage number (jobOn line).packageId)
    (some (.rules (Package.ofId (jobOn line).packageId).brokenRules))

/-- A listing has the logs of some lines: each package once, in the order in which they are first named, and with all its
logs in the order of the lines. -/
structure Gathers (lines : List Text) (listing : Listing) : Prop where
  packages : listing.map ListingEntry.packageId = ((jobsIn lines).map Job.packageId).eraseDups
  nodup : (listing.map ListingEntry.packageId).Nodup
  logs : ∀ e ∈ listing, e.logPaths = ((jobsIn lines).filter fun job => job.packageId == e.packageId).map Job.path
  logCount : listing.logCount = (lines.filter (IsRelevant ·)).length

theorem jobsIn_append (lines lines' : List Text) : jobsIn (lines ++ lines') = jobsIn lines ++ jobsIn lines' := by
  rw [jobsIn, List.filter_append, List.map_append, jobsIn, jobsIn]

theorem jobsIn_concat (lines : List Text) (line : Text) :
    jobsIn (lines ++ [line]) = jobsIn lines ++ if IsRelevant line then [jobOn line] else [] := by
  rw [jobsIn_append]
  by_cases h : IsRelevant line <;> simp [jobsIn, h]

theorem gathers_gathered (lines : List Text) : Gathers lines (gathered (jobsIn lines)) where
  packages := by simp [gathered, Function.comp_def]
  nodup := by
    have hkeys : (gathered (jobsIn lines)).map ListingEntry.packageId = ((jobsIn lines).map Job.packageId).eraseDups := by
      simp [gathered, Function.comp_def]
    rw [hkeys]
    exact nodup_eraseDups _
  logs := by
    intro e he
    obtain ⟨d, -, rfl⟩ := List.mem_map.1 he
    rfl
  logCount := by rw [logCount_gathered, jobsIn, List.length_map]

theorem addLine_dropReturn (path : Text) (listing : Listing) (line : Text) (number : Nat) :
    addLine path listing (Lines.dropReturn line, number) = addLine path listing (line, number) := by
  simp only [addLine, parseLine, Store.trim_dropReturn]

/-- The parts of a text before and behind its first comma. -/
theorem cut?_comma {s : Text} (h : Text.comma ∈ s) : Text.cut? s [Text.comma] =
    some (s.takeWhile (· != Text.comma), (s.dropWhile (· != Text.comma)).drop 1) := by
  obtain ⟨a, b, rfl, ha⟩ := List.eq_append_cons_of_mem h
  have hall : ∀ c ∈ a, (c != Text.comma) = true := fun c hc => by simpa using ne_of_mem_of_not_mem hc ha
  rw [Text.cut?_append_byte ha, List.takeWhile_append_of_pos hall, List.dropWhile_append_of_pos hall]
  simp

/-- **What a line says.** -/
theorem parseLine_cases (line : Text) :
    (¬ IsRelevant line ∧ parseLine line = .ok none) ∨
    (IsRelevant line ∧ IsMalformed line ∧ parseLine line = .error ()) ∨
    (IsRelevant line ∧ ¬ IsMalformed line ∧
      parseLine line = .ok (some ((jobOn line).packageId, (jobOn line).path))) := by
  by_cases hrelevant : IsRelevant line
  · right
    have hread : ((Text.trim line).isEmpty || (Text.trim line).head? == some 0x23) = false := by
      simpa [IsRelevant] using hrelevant
    -- a line without a comma has one part only
    by_cases hcomma : Text.comma ∈ Text.trim line
    · have hparse : parseLine line = if (jobOn line).packageId.isEmpty || (jobOn line).path.isEmpty then .error ()
          else .ok (some ((jobOn line).packageId, (jobOn line).path)) := by
        simp only [parseLine, hread, Bool.false_eq_true, if_false, cut?_comma hcomma]
        rfl
      by_cases hbad : IsMalformed line
      · refine .inl ⟨hrelevant, hbad, ?_⟩
        rw [hparse, if_pos]
        simpa [IsMalformed, hcomma] using hbad
      · refine .inr ⟨hrelevant, hbad, ?_⟩
        rw [hparse, if_neg]
        simpa [IsMalformed, hcomma] using hbad
    · refine .inl ⟨hrelevant, .inl hcomma, ?_⟩
      simp only [parseLine, hread, Bool.false_eq_true, if_false, Text.cut?_of_not_mem hcomma]
  · left
    have hskip : ((Text.trim line).isEmpty || (Text.trim line).head? == some 0x23) = true := by
      by_contra hread
      exact hrelevant (by simpa [IsRelevant] using hread)
    exact ⟨hrelevant, by simp only [parseLine, hskip, if_true]⟩

/-! ## files -/

/-- **One line** is added to the logs above it, or reported. -/
theorem addLine_gathered (path : Text) (front : List Text) (line : Text) (number : Nat) :
    addLine path (gathered (jobsIn front)) (line, number) =
      if BadBelow front line then .error (faultOn path line number) else .ok (gathered (jobsIn (front ++ [line]))) := by
  rcases parseLine_cases line with ⟨hskip, hparse⟩ | ⟨hrelevant, hbad, hparse⟩ | ⟨hrelevant, hgood, hparse⟩
  · rw [if_neg fun h => hskip h.1, jobsIn_concat, if_neg hskip, List.append_nil]
    simp only [addLine, hparse]
  · rw [if_pos ⟨hrelevant, .inl hbad⟩, faultOn, if_pos hbad]
    simp only [addLine, hparse]
  · rw [jobsIn_concat, if_pos hrelevant, ← add_gathered]
    simp only [addLine, hparse, lists_gathered]
    by_cases hknown : (jobOn line).packageId ∈ (jobsIn front).map Job.packageId
    · rw [if_pos (List.contains_iff_mem.2 hknown), if_neg]
      rintro ⟨-, hbad | ⟨-, hnew⟩⟩
      · exact hgood hbad
      · exact hnew hknown
    · rw [if_neg fun h => hknown (List.contains_iff_mem.1 h)]
      cases hbroken : (Package.ofId (jobOn line).packageId).brokenRules with
      | nil =>
        rw [if_neg]
        rintro ⟨-, hbad | ⟨hbad, -⟩⟩
        · exact hgood hbad
        · exact hbad hbroken
      | cons rule rules =>
        rw [if_pos ⟨hrelevant, .inr ⟨by simp [hbroken], hknown⟩⟩, faultOn, if_neg hgood, hbroken]

/-- Lines of which none is bad are all added. -/
theorem foldlM_of_good (path : Text) (lines : List Text) : ∀ (front : List Text) (number : Nat),
    (∀ i line, lines[i]? = some line → ¬ BadBelow (front ++ lines.take i) line) →
    (lines.zipIdx number).foldlM (addLine path) (gathered (jobsIn front)) =
      .ok (gathered (jobsIn (front ++ lines))) := by
  induction lines with
  | nil =>
    intro front number _
    rw [List.append_nil]
    rfl
  | cons line lines ih =>
    intro front number hgood
    have hfirst : ¬ BadBelow front line := by simpa using hgood 0 line rfl
    have hassoc : front ++ line :: lines = (front ++ [line]) ++ lines := by simp
    rw [List.zipIdx_cons, List.foldlM_cons, addLine_gathered, if_neg hfirst, hassoc]
    refine ih (front ++ [line]) (number + 1) fun i l hl => ?_
    simpa using hgood (i + 1) l (by simpa using hl)

section Content

variable {path content : Text} (hshort : ∀ line ∈ Lines.raw content, line.length < Lines.narrow)
include hshort

theorem ofContent_eq : ofContent path content = ((Lines.raw content).zipIdx 1).foldlM (addLine path) [] := by
  have hread := Lines.read_of_fits (by decide) hshort
  have hlines : ofLines path ((Lines.raw content).map Lines.dropReturn) =
      ((Lines.raw content).zipIdx 1).foldlM (addLine path) [] := by
    rw [ofLines, List.zipIdx_map, List.foldlM_map]
    congr 1
    funext listing numbered
    exact addLine_dropReturn path listing numbered.1 numbered.2
  rw [ofContent, hread, hlines]
  exact bind_pure _

theorem ofContent_of_good (hgood : ∀ i, ¬ BadAt (Lines.raw content) i) :
    ofContent path content = .ok (gathered (jobsIn (Lines.raw content))) := by
  rw [ofContent_eq hshort]
  exact foldlM_of_good path (Lines.raw content) [] 1 fun i line hline hbad => hgood i ⟨line, hline, hbad⟩

/-- The first bad line is reported. -/
theorem ofContent_of_bad {i : Nat} {line : Text} (hline : (Lines.raw content)[i]? = some line)
    (hfirst : IsLeast {i | BadAt (Lines.raw content) i} i) :
    ofContent path content = .error (faultOn path line (i + 1)) := by
  obtain ⟨⟨line', hline', hbad⟩, hlower⟩ := hfirst
  cases hline.symm.trans hline'
  have hlength : ((Lines.raw content).take i).length = i :=
    List.length_take_of_le (List.getElem?_eq_some_iff.1 hline).1.le
  have hgood : (((Lines.raw content).take i).zipIdx 1).foldlM (addLine path) [] =
      .ok (gathered (jobsIn ((Lines.raw content).take i))) := by
    refine foldlM_of_good path ((Lines.raw content).take i) [] 1 fun j l hl hbad' => ?_
    rw [List.getElem?_take] at hl
    split at hl
    · next hj =>
      have := hlower ⟨l, hl, by simpa [List.take_take, hj.le] using hbad'⟩
      omega
    · cases hl
  rw [ofContent_eq hshort, ← Lines.take_append_cons_drop hline, List.zipIdx_append, List.foldlM_append, hlength, hgood]
  change ((line :: (Lines.raw content).drop (i + 1)).zipIdx (1 + i)).foldlM (addLine path)
    (gathered (jobsIn ((Lines.raw content).take i))) = _
  rw [List.zipIdx_cons, List.foldlM_cons, addLine_gathered, if_pos hbad, Nat.add_comm 1 i]
  rfl

end Content

/-- **What is loaded from a content**: it has no line that is too long and no bad one, and its logs are given. -/
theorem ofContent_ok {path content : Text} {listing : Listing} (h : ofContent path content = .ok listing) :
    (∀ line ∈ Lines.raw content, line.length < Lines.narrow) ∧ (∀ i, ¬ BadAt (Lines.raw content) i) ∧
      listing = gathered (jobsIn (Lines.raw content)) := by
  have hshort : ∀ line ∈ Lines.raw content, line.length < Lines.narrow := by
    by_contra hlong
    have hall : (Lines.raw content).all (Lines.fits Lines.narrow) = false := by
      simpa [List.all_eq_false, Lines.fits] using hlong
    rw [ofContent, Lines.read_eq (by decide), hall] at h
    cases hlines : ofLines path (((Lines.raw content).takeWhile (Lines.fits Lines.narrow)).map Lines.dropReturn) with
    | error fault =>
      rw [hlines] at h
      cases h
    | ok read =>
      rw [hlines] at h
      cases h
  have hgood : ∀ i, ¬ BadAt (Lines.raw content) i := by
    intro i hbad
    have hfirst := Nat.isLeast_find ⟨i, hbad⟩
    obtain ⟨line, hline, -⟩ := hfirst.1
    rw [ofContent_of_bad hshort hline hfirst] at h
    cases h
  rw [ofContent_of_good hshort hgood] at h
  cases h
  exact ⟨hshort, hgood, rfl⟩

/-- A listing is loaded from a content that was read. -/
theorem run_load (machine : Machine) (path : Text) :
    ∃ answer, (load path : StateM Machine _).run machine = (answer, machine) ∧
    ((∃ content, machine.tree.readFile path = .ok content ∧ answer = ofContent path content) ∨
      (∃ e, machine.tree.readFile path = .error e) ∧ ∃ fault, answer = .error fault) := by
  have hfile : (Disk.Host.readFile path : StateM Machine _).run machine = (machine.tree.readFile path, machine) := rfl
  rw [load, Machine.run_seq, hfile]
  cases hread : machine.tree.readFile path with
  | error e => exact ⟨_, rfl, .inr ⟨⟨e, rfl⟩, _, rfl⟩⟩
  | ok content => exact ⟨_, rfl, .inl ⟨content, rfl, rfl⟩⟩

/-- **All logs of a listing that was loaded can stand in a failure list.** -/
theorem isListed_of_load {machine : Machine} {path : Text} {listing : Listing}
    (h : ((load path : StateM Machine _).run machine).1 = .ok listing) :
    ∀ e ∈ listing, ∀ p ∈ e.logPaths, Store.IsListed p := by
  obtain ⟨answer, hrun, ⟨content, -, rfl⟩ | ⟨-, fault, rfl⟩⟩ := run_load machine path
  · rw [hrun] at h
    obtain ⟨hshort, hgood, rfl⟩ := ofContent_ok h
    intro e he p hp
    rw [(gathers_gathered _).logs e he] at hp
    obtain ⟨job, hjob, rfl⟩ := List.mem_map.1 hp
    obtain ⟨line, hline, rfl⟩ := List.mem_map.1 (List.mem_of_mem_filter hjob)
    obtain ⟨hline, hrelevant⟩ := List.mem_filter.1 hline
    obtain ⟨i, hi⟩ := List.mem_iff_getElem?.1 hline
    have hne : (jobOn line).path ≠ [] := fun hnil =>
      hgood i ⟨line, hi, of_decide_eq_true hrelevant, .inl (.inr (.inr hnil))⟩
    have hsub : List.Sublist (jobOn line).path line :=
      (Text.trim_sublist _).trans ((List.drop_sublist ..).trans ((List.dropWhile_sublist _).trans (Text.trim_sublist _)))
    exact ⟨hne, fun hlf => Lines.no_lf_of_mem_raw hline (hsub.mem hlf), Text.trim_trim _,
      hsub.length_le.trans_lt (hshort line hline)⟩
  · rw [hrun] at h
    cases h

/-- The report names the file and the number of the line. -/
theorem message_faultOn (path line : Text) (number : Nat) :
    ("listing error: " ++ path ++ ": line " ++ Text.ofNat number ++ ": " : Text) <+:
      (faultOn path line number).message := by
  unfold faultOn
  split
  · exact ⟨_, by simp [Fault.message, ListingProblem.message]; rfl⟩
  · exact ⟨_, by simp [Fault.message, ListingProblem.message]; rfl⟩

/-- **A listing file is refused at its first bad line, and else nothing in it is lost.** -/
theorem load_exact {machine : Machine} {path content : Text} (hread : machine.tree.readFile path = .ok content)
    (hshort : ∀ line ∈ Lines.raw content, line.length < Lines.narrow) :
    let answer := ((load path : StateM Machine _).run machine).1
    ((∃ fault, answer = .error fault) ↔ ∃ i, BadAt (Lines.raw content) i) ∧
    (∀ i line, IsLeast {i | BadAt (Lines.raw content) i} i → (Lines.raw content)[i]? = some line →
      answer = .error (faultOn path line (i + 1)) ∧
        ("listing error: " ++ path ++ ": line " ++ Text.ofNat (i + 1) ++ ": " : Text) <+:
          (faultOn path line (i + 1)).message) ∧
    ((∀ i, ¬ BadAt (Lines.raw content) i) → ∃ listing, answer = .ok listing ∧ Gathers (Lines.raw content) listing) ∧
    ((load path : StateM Machine _).run machine).2 = machine := by
  obtain ⟨answer, hrun, ⟨content', hread', rfl⟩ | ⟨⟨e, hfailed⟩, -⟩⟩ := run_load machine path
  · cases hread.symm.trans hread'
    rw [hrun]
    refine ⟨⟨?_, ?_⟩, fun i line hfirst hline => ⟨ofContent_of_bad hshort hline hfirst, message_faultOn ..⟩,
      fun hgood => ⟨_, ofContent_of_good hshort hgood, gathers_gathered _⟩, rfl⟩
    · rintro ⟨fault, hfault⟩
      by_contra hnone
      rw [ofContent_of_good hshort (not_exists.1 hnone)] at hfault
      cases hfault
    · intro hbad
      have hfirst := Nat.isLeast_find hbad
      obtain ⟨line, hline, -⟩ := hfirst.1
      exact ⟨_, ofContent_of_bad hshort hline hfirst⟩
  · cases hread.symm.trans hfailed

/-- Two packages in mixed lines, and a third that breaks a rule below them. -/
theorem load_exact_mixed :
    let good : Text := "# logs\n\nb-1.0, y,z\r\na,x\n b-1.0 ,w\nb-1.0,y,z\n"
    let bad : Text := "# logs\n\nb-1.0, y,z\r\na,x\n/,w\n,\n"
    let machine : Machine := { tree := { nodes := [(["good"], .file 0), (["bad"], .file 1)], contents := #[good, bad] } }
    ((∀ line ∈ Lines.raw good, line.length < Lines.narrow) ∧
      ∃ listing, ((load "good" : StateM Machine _).run machine).1 = .ok listing ∧ Gathers (Lines.raw good) listing) ∧
    (∀ line ∈ Lines.raw bad, line.length < Lines.narrow) ∧ IsLeast {i | BadAt (Lines.raw bad) i} 4 ∧
      ((load "bad" : StateM Machine _).run machine).1 = .error (faultOn "bad" "/,w" 5) := by
  intro good bad machine
  have hgood : ∀ line ∈ Lines.raw good, line.length < Lines.narrow := by decide +kernel
  have hbad : ∀ line ∈ Lines.raw bad, line.length < Lines.narrow := by decide +kernel
  have hnone : ∀ i, ¬ BadAt (Lines.raw good) i := by
    intro i hi
    have hall : ∀ i < (Lines.raw good).length, ¬ BadAt (Lines.raw good) i := by decide +kernel
    exact hall i hi.lt_length hi
  have hleast : IsLeast {i | BadAt (Lines.raw bad) i} 4 := by
    refine ⟨show BadAt (Lines.raw bad) 4 by decide +kernel, fun i hi => ?_⟩
    have hfirst : ∀ i < 4, ¬ BadAt (Lines.raw bad) i := by decide +kernel
    exact Nat.le_of_not_lt fun hlt => hfirst i hlt hi
  refine ⟨⟨hgood, (@load_exact machine "good" good rfl hgood).2.2.1 hnone⟩, hbad, hleast, ?_⟩
  exact ((@load_exact machine "bad" bad rfl hbad).2.1 4 "/,w" hleast (by decide +kernel)).1

end CastAudit.Listing
