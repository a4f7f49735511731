import CastAudit.Proofs.Command.Finishing
import CastAudit.Proofs.Listing.Loading

/-!
# Histories of a failure list

A failure list is written again and again, each time over what is there or behind it.

* `Call.play path machine calls` — such calls one after the other, on a machine;
* `sinceFresh calls` — the calls of which something is left;
* `Keeps t path lines` — the list at the path has some lines. One call adds its own (`Keeps.written`), and all
  calls keep those since the last fresh one (`keeps_of_play`);
* `readFailures_play` — their paths are read back, each once.
-/

namespace CastAudit.Store

open Disk (Machine Tree)

/-! ## calls -/

/-- A call that writes paths to a list. -/
structure Call where
  paths : List Text
  fresh : Bool := false
deriving Repr, DecidableEq

/-- A call on a machine, unless it fails. -/
def Call.run (path : Text) (machine : Machine) (call : Call) : Option Machine :=
  match (writeFailures path call.paths call.fresh : StateM Machine _).run machine with
  | (.ok (), after) => some after
  | (.error _, _) => none

/-- Calls on a machine. -/
def Call.play (path : Text) (machine : Machine) (calls : List Call) : Option Machine :=
  calls.foldlM (Call.run path) machine

/-- The calls since the last fresh one, and that one; all if there is none. -/
def sinceFresh : List Call → List Call
  | [] => []
  | call :: calls => if calls.any Call.fresh then sinceFresh calls else call :: calls

theorem sinceFresh_isSuffix (calls : List Call) : sinceFresh calls <:+ calls := by
  induction calls with
  | nil => exact List.suffix_rfl
  | cons call calls ih =>
    rw [sinceFresh]
    split
    · exact ih.trans (List.suffix_cons ..)
    · exact List.suffix_rfl

theorem sinceFresh_concat (calls : List Call) (call : Call) :
    sinceFresh (calls ++ [call]) = (if call.fresh then [] else sinceFresh calls) ++ [call] := by
  induction calls with
  | nil => simp [sinceFresh]
  | cons first calls ih =>
    rw [List.cons_append, sinceFresh, sinceFresh, ih]
    cases hfresh : call.fresh with
    | true => simp [hfresh]
    | false => cases hany : calls.any Call.fresh <;> simp [hfresh, hany]

/-- The lines that calls write, if each but the first adds to what is there. -/
def linesOf (calls : List Call) : List Text := (calls.map Call.paths).flatMap distinctFilled

theorem linesOf_concat (calls : List Call) (call : Call) :
    linesOf (calls ++ [call]) = linesOf calls ++ distinctFilled call.paths := by
  simp [linesOf]

/-! ## the list -/

/-- The file at a path has some lines, and it can be read. -/
structure Keeps (t : Tree) (path : Text) (lines : List Text) : Prop where
  tree : t.WellFormed
  file : ∃ n, t.fileOf? path = some n ∧ t.unreadable.lookup n = none ∧ t.content n = Text.unlines lines

section Written

variable {t t' : Tree} {path : Text} {fresh : Bool} {new : List Text}

/-- **One call** leaves the lines that were there, unless it is fresh, and its own below them. -/
theorem Keeps.written {lines : List Text} (h : Keeps t path lines)
    (hwritten : t.Written path fresh (Text.unlines new) t') : Keeps t' path ((if fresh then [] else lines) ++ new) := by
  obtain ⟨hwf, n, hn, hread, hcontent⟩ := h
  have hn' := hwritten.extends.fileOf? hn
  refine ⟨hwritten.wellFormed hwf, n, hn', by rw [hwritten.extends.unreadable, hread], ?_⟩
  rw [hwritten.content hwf (.inr hn'), if_pos hn', Tree.bytesAt_of_fileOf? hn, hcontent]
  cases fresh <;> simp [Text.unlines]

/-- The first call makes the file. -/
theorem keeps_of_written (h : Blank t path) (hwritten : t.Written path fresh (Text.unlines new) t') :
    Keeps t' path new := by
  rcases h.empty with ⟨n, hn, hread, hempty⟩ | ⟨habsent, hnext⟩
  · have hkeeps : Keeps t path [] := ⟨h.tree, n, hn, hread, hempty⟩
    simpa using hkeeps.written hwritten
  · have hn : t'.fileOf? path = some t.contents.size := by
      obtain ⟨file, t₁, hopened, happend⟩ := hwritten
      exact (Tree.extends_append happend).fileOf? (hopened.fileOf? (hopened.node_of_absent habsent))
    refine ⟨hwritten.wellFormed h.tree, t.contents.size, hn, by rw [hwritten.extends.unreadable, hnext], ?_⟩
    rw [hwritten.content h.tree (.inr hn), if_pos hn, Tree.bytesAt, habsent.fileOf?]
    cases fresh <;> rfl

end Written

section History

variable {path : Text} {machine after : Machine} {calls : List Call}

theorem written_of_run {call : Call} (hwf : machine.tree.WellFormed) (h : call.run path machine = some after) :
    machine.tree.Written path call.fresh (Text.unlines (distinctFilled call.paths)) after.tree := by
  unfold Call.run at h
  split at h
  · next hrun =>
    cases h
    exact Command.writeFailures_ok hwf hrun
  · cases h

theorem play_concat {call : Call} (h : Call.play path machine (calls ++ [call]) = some after) :
    ∃ before, Call.play path machine calls = some before ∧ call.run path before = some after := by
  rw [Call.play, List.foldlM_append] at h
  obtain ⟨before, hbefore, hlast⟩ := Option.bind_eq_some_iff.1 h
  exact ⟨before, hbefore, by simpa using hlast⟩

/-- **All calls** leave the lines of those since the last fresh one, once there is a file. -/
theorem keeps_of_play (hblank : Blank machine.tree path) (hplay : Call.play path machine calls = some after)
    (hfile : calls ≠ [] ∨ (machine.tree.fileOf? path).isSome = true) :
    Keeps after.tree path (linesOf (sinceFresh calls)) := by
  induction calls using List.reverseRecOn generalizing after with
  | nil =>
    cases hplay
    rcases hblank.empty with ⟨n, hn, hread, hempty⟩ | ⟨habsent, -⟩
    · exact ⟨hblank.tree, n, hn, hread, hempty⟩
    · have hsome := hfile.resolve_left (by simp)
      rw [habsent.fileOf?] at hsome
      cases hsome
  | append_singleton calls call ih =>
    obtain ⟨before, hbefore, hlast⟩ := play_concat hplay
    rw [sinceFresh_concat, linesOf_concat]
    rcases List.eq_nil_or_concat calls with rfl | ⟨front, last, rfl⟩
    · cases hbefore
      have hkeeps := keeps_of_written hblank (written_of_run hblank.tree hlast)
      cases hfresh : call.fresh <;> exact hkeeps
    · have hkeeps := ih hbefore (.inl (by simp))
      have hafter := hkeeps.written (written_of_run hkeeps.tree hlast)
      cases hfresh : call.fresh
      · simpa [hfresh] using hafter
      · simpa [hfresh, linesOf] using hafter

/-- **A failure list is an ordered set.** After any calls that write to one path that had no list yet, the paths of all
calls since the last fresh one are read back in order, each once and empty ones left out, if there was a call or an empty
file before. The logs of every listing that can be loaded may be written so. -/
theorem readFailures_play (hblank : Blank machine.tree path) (hplay : Call.play path machine calls = some after)
    (hfile : calls ≠ [] ∨ (machine.tree.fileOf? path).isSome = true)
    (hlisted : ∀ call ∈ calls, ∀ p ∈ call.paths, p ≠ [] → IsListed p) :
    (readFailures path : StateM Machine _).run after =
        (.ok ((((sinceFresh calls).flatMap Call.paths).filter (· ≠ [])).eraseDups), after) ∧
      ∀ (other : Machine) (file : Text) (listing : Listing),
        ((Listing.load file : StateM Machine _).run other).1 = .ok listing →
        ∀ e ∈ listing, ∀ p ∈ e.logPaths, IsListed p := by
  obtain ⟨-, n, hn, hread, hcontent⟩ := keeps_of_play hblank hplay hfile
  have hlines : ∀ p ∈ linesOf (sinceFresh calls), IsListed p := by
    intro p hp
    obtain ⟨paths, hpaths, hp⟩ := List.mem_flatMap.1 hp
    obtain ⟨call, hcall, rfl⟩ := List.mem_map.1 hpaths
    obtain ⟨hp, hne⟩ := mem_distinctFilled.1 hp
    exact hlisted call ((sinceFresh_isSuffix calls).mem hcall) p hp hne
  have hanswer : failuresOf path (Text.unlines (linesOf (sinceFresh calls))) =
      .ok ((((sinceFresh calls).flatMap Call.paths).filter (· ≠ [])).eraseDups) := by
    rw [failuresOf_unlines_eq path hlines, linesOf, distinctFilled_flatMap, ← List.flatMap_def, distinctFilled]
    congr 3
    funext p
    cases p <;> rfl
  have hrun : (Disk.Host.readFile path : StateM Machine _).run after = (after.tree.readFile path, after) := rfl
  refine ⟨?_, fun _ _ _ h => Listing.isListed_of_load h⟩
  rw [readFailures, Machine.run_seq, hrun, Tree.readFile_of_fileOf? hn hread, hcontent, ← hanswer]
  rfl

end History

/-- A list that is not there yet. The second call is fresh, and the third repeats one of its paths. -/
theorem readFailures_play_repeated :
    let calls : List Call := [⟨["a/l", "b"], false⟩, ⟨["c d", "", "a/l", "c d"], true⟩, ⟨["b", "c d", "", "e\rf"], false⟩]
    ∃ after, Call.play "out/f" {} calls = some after ∧
      (readFailures "out/f" : StateM Machine _).run after = (.ok ["c d", "a/l", "b", "e\rf"], after) := by
  intro calls
  have hplayed : (Call.play "out/f" {} calls).isSome = true := by decide +kernel
  have habsent : ({} : Tree).locate "out/f" = .error .notFound := by decide +kernel
  have hblank : Blank ({} : Machine).tree "out/f" :=
    ⟨Tree.wellFormed_of_nodes (by simp) (by simp), .inr ⟨fun place node h => (by cases habsent.symm.trans h), rfl⟩⟩
  have hlisted : ∀ call ∈ calls, ∀ p ∈ call.paths, p ≠ [] → IsListed p := by
    have hall : ∀ call ∈ calls, ∀ p ∈ call.paths, p ≠ [] →
        Text.lf ∉ p ∧ Text.trim p = p ∧ p.length < Lines.narrow := by decide +kernel
    intro call hcall p hp hne
    obtain ⟨hlf, htrim, hshort⟩ := hall call hcall p hp hne
    exact ⟨hne, hlf, htrim, hshort⟩
  have hpaths : (((sinceFresh calls).flatMap Call.paths).filter (· ≠ [])).eraseDups =
      (["c d", "a/l", "b", "e\rf"] : List Text) := by
    decide +kernel
  obtain ⟨after, hafter⟩ := Option.isSome_iff_exists.1 hplayed
  refine ⟨after, hafter, ?_⟩
  rw [(readFailures_play hblank hafter (.inl (by simp [calls])) hlisted).1, hpaths]

end CastAudit.Store
