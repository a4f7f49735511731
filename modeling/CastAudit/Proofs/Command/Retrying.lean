import CastAudit.Proofs.Command.Finishing
import CastAudit.Proofs.Listing.Grouping
import CastAudit.Proofs.Run.Findings
import CastAudit.Proofs.Run.Visiting

/-!
# A retry from end to end

A retry reads a failure list, scans its logs again, appends what it finds to the store and writes the logs that still
fail to the list.

* `retryBy visiting plan` — a retry with its logs visited in some way, and `retryBy_oneByOne`: the serial one is `retry`;
* `rescanned`, `stillFailing` — the records and the failing logs of a list, told from what its logs read as;
* `retry_leaves` — the bytes of the store and the list after a retry;
* `retry_rescans` — what a retry scans and leaves, and that the next one leaves the same list.
-/

namespace CastAudit.Command

open Disk (Machine Tree)
open Listing (groupedBy packageOfLog jobAt)
open Run (Visiting foundIn failingIn recordsIn fails)

/-- A retry with its logs visited in some way. -/
def retryBy (visiting : Visiting) (plan : RetryPlan) : ExceptT Fault (StateM Machine) ScanSummary := do
  let failed ← ExceptT.mk (Store.readFailures plan.results.failures)
  if failed.isEmpty then
    ExceptT.lift (Disk.Host.print ("No failed logs in " ++ plan.results.failures ++ "\n"))
    return { profile := plan.profile.name }
  ExceptT.lift (Disk.Host.print ("Retrying " ++ Text.ofNat failed.length ++ " failed logs...\n"))
  let (result, events) ← ExceptT.mk (visiting.run plan.profile none (Listing.ofFailures failed))
  ExceptT.lift (detailProgress plan.verbose events)
  let summary ← finish plan.profile plan.results plan.verbose false true failed.length result
  ExceptT.lift (Disk.Host.print (retryLine summary plan.results.records))
  return summary

theorem retryBy_oneByOne (plan : RetryPlan) : retryBy .oneByOne plan = retry plan := rfl

/-! ## what is found again -/

section Again

variable (read : Text → Except Disk.Error Text) (profile : Profile)

/-- The records of the logs of a list, by the names of their directories. -/
def rescanned (failed : List Text) : List Record :=
  (groupedBy packageOfLog failed).flatMap fun p => recordsIn read profile (jobAt p)

/-- The logs of a list that fail, by the names of their directories. -/
def stillFailing (failed : List Text) : List Text :=
  (groupedBy packageOfLog failed).filter fun p => fails read profile (jobAt p)

variable {read profile} {failed : List Text}

theorem foundIn_ofFailures (hnodup : failed.Nodup) (h : ∀ p ∈ failed, Store.IsListed p) :
    foundIn read profile (Listing.ofFailures failed) = rescanned read profile failed := by
  rw [foundIn, Listing.jobs_ofFailures hnodup fun p hp => ⟨(h p hp).trimmed, (h p hp).ne_nil⟩, List.flatMap_map]
  rfl

theorem nodup_stillFailing (hnodup : failed.Nodup) : (stillFailing read profile failed).Nodup :=
  (Listing.nodup_groupedBy hnodup).filter _

theorem mem_stillFailing {p : Text} :
    p ∈ stillFailing read profile failed ↔ p ∈ failed ∧ fails read profile (jobAt p) = true := by
  rw [stillFailing, List.mem_filter, Listing.mem_groupedBy]

theorem failingIn_ofFailures (hnodup : failed.Nodup) (h : ∀ p ∈ failed, Store.IsListed p) :
    failingIn read profile (Listing.ofFailures failed) = stillFailing read profile failed := by
  have hpaths : ∀ paths : List Text, ((paths.map jobAt).filter (fails read profile)).map Job.path =
      paths.filter fun p => fails read profile (jobAt p) := by
    intro paths
    rw [List.filter_map, List.map_map]
    exact List.map_id _
  rw [failingIn, Listing.jobs_ofFailures hnodup fun p hp => ⟨(h p hp).trimmed, (h p hp).ne_nil⟩, hpaths]
  exact eraseDups_of_nodup (nodup_stillFailing hnodup)

/-- Logs that still fail, and read the same, fail again and stay in their order. -/
theorem stillFailing_stillFailing {read' : Text → Except Disk.Error Text}
    (h : ∀ p ∈ stillFailing read profile failed, read' p = read p) :
    stillFailing read' profile (stillFailing read profile failed) = stillFailing read profile failed := by
  conv_lhs => rw [stillFailing, stillFailing, Listing.groupedBy_filter]
  refine List.filter_eq_self.2 fun p hp => ?_
  rw [fails, Listing.path_jobAt, h p hp]
  exact (mem_stillFailing.1 hp).2

end Again

/-! ## a retry -/

/-- The logs of a list are scanned again: each of them once, by the names of their directories, and without a cache. -/
structure Rescan (visiting : Visiting) (plan : RetryPlan) (failed : List Text) (machine : Machine)
    (summary : ScanSummary) : Prop where
  jobs : (Listing.ofFailures failed).jobs = (groupedBy packageOfLog failed).map jobAt
  once : failed.Nodup ∧ (groupedBy packageOfLog failed).Perm failed
  run : ∃ told visited result events, told.tree = machine.tree ∧
    (visiting.run plan.profile none (Listing.ofFailures failed)).run told = (.ok (result, events), visited) ∧
    Run.Reading machine.tree.readFile plan.profile (Listing.ofFailures failed) result ∧
    summary = summaryOf plan.profile failed.length result

section Retry

variable {plan : RetryPlan} {visiting : Visiting} {machine after : Machine} {summary : ScanSummary} {content : Text}
  {n k : Nat}

/-- A retry that succeeds has read its list. -/
theorem failures_of_retry (hread : machine.tree.readFile plan.results.failures = .ok content)
    (h : Yields (retryBy visiting plan) machine summary after) :
    (Store.readFailures plan.results.failures : StateM Machine _).run machine = (.ok (Store.listedIn content), machine) ∧
    (Store.listedIn content).Nodup ∧ ∀ p ∈ Store.listedIn content, Store.IsListed p := by
  have hrun : (Disk.Host.readFile plan.results.failures : StateM Machine _).run machine = (.ok content, machine) := by
    rw [← hread]
    rfl
  have hall : (Store.readFailures plan.results.failures : StateM Machine _).run machine =
      (Store.failuresOf plan.results.failures content, machine) := by
    rw [Store.readFailures, Machine.run_seq, hrun]
    rfl
  obtain ⟨failed, m, hfailed, -⟩ := yields_bind.1 h
  have hok := (Prod.mk.inj (hall.symm.trans (yields_mk.1 hfailed))).1
  obtain ⟨-, rfl⟩ := Store.failuresOf_ok hok
  exact ⟨hall.trans (by rw [hok]), Store.isListed_of_failuresOf hok⟩

/-- A retry of an empty list changes no file. -/
theorem retry_nothing (hread : machine.tree.readFile plan.results.failures = .ok content)
    (hnone : Store.listedIn content = []) (h : Yields (retryBy visiting plan) machine summary after) :
    after.tree = machine.tree := by
  obtain ⟨hlist, -⟩ := failures_of_retry hread h
  obtain ⟨failed, m, hfailed, h⟩ := yields_bind.1 h
  obtain ⟨hsame, rfl⟩ := Prod.mk.inj (hlist.symm.trans (yields_mk.1 hfailed))
  cases hsame
  rw [hnone] at h
  obtain ⟨_, m', hprint, h⟩ := yields_bind.1 h
  obtain ⟨-, rfl⟩ := yields_pure.1 h
  exact hprint.quiet (quiet_print _)

/-- A retry with something to retry visits the logs and then leaves what it found. -/
theorem retryBy_steps {failed : List Text}
    (hlist : (Store.readFailures plan.results.failures : StateM Machine _).run machine = (.ok failed, machine))
    (hne : failed ≠ []) (h : Yields (retryBy visiting plan) machine summary after) :
    ∃ told visited result events before finished, told.tree = machine.tree ∧
      (visiting.run plan.profile none (Listing.ofFailures failed)).run told = (.ok (result, events), visited) ∧
      before.tree = visited.tree ∧
      Yields (finish plan.profile plan.results plan.verbose false true failed.length result) before summary finished ∧
      after.tree = finished.tree ∧ finished.printed <:+ after.printed := by
  obtain ⟨failed', m, hfailed, h⟩ := yields_bind.1 h
  obtain ⟨hsame, rfl⟩ := Prod.mk.inj (hlist.symm.trans (yields_mk.1 hfailed))
  cases hsame
  rw [if_neg (by simpa using hne)] at h
  obtain ⟨_, told, hprint, h⟩ := yields_bind.1 h
  obtain ⟨⟨result, events⟩, visited, hrun, h⟩ := yields_bind.1 h
  obtain ⟨_, before, hprogress, h⟩ := yields_bind.1 h
  obtain ⟨summary', finished, hfinish, h⟩ := yields_bind.1 h
  obtain ⟨_, m₁, hline, h⟩ := yields_bind.1 h
  obtain ⟨rfl, rfl⟩ := yields_pure.1 h
  exact ⟨told, visited, result, events, before, finished, hprint.quiet (quiet_print _), yields_mk.1 hrun,
    hprogress.quiet (quiet_detailProgress _ _), hfinish, hline.quiet (quiet_print _), hline.printed (quiet_print _)⟩

/-- **What a retry leaves**: the rows of the records behind what the store had, and the logs that still fail. -/
theorem retry_leaves (hwf : machine.tree.WellFormed)
    (hread : machine.tree.readFile plan.results.failures = .ok content) (hne : Store.listedIn content ≠ [])
    (h : Yields (retryBy visiting plan) machine summary after) (hseparate : plan.results.Separate after.tree n k) :
    after.tree.WellFormed ∧ Rescan visiting plan (Store.listedIn content) machine summary ∧
    after.tree.content n = machine.tree.bytesAt plan.results.records ++
      Csv.writeRows ((rescanned machine.tree.readFile plan.profile (Store.listedIn content)).map Store.rowOf) ∧
    after.tree.content k = Text.unlines (stillFailing machine.tree.readFile plan.profile (Store.listedIn content)) := by
  obtain ⟨hlist, hnodup, hlisted⟩ := failures_of_retry hread h
  generalize Store.listedIn content = failed at *
  obtain ⟨told, visited, result, events, before, finished, htold, hrun, hvisited, hfinish, hafter, -⟩ :=
    retryBy_steps hlist hne h
  have hreading := Run.reading_ofOutcomes machine.tree.readFile plan.profile (Listing.ofFailures failed)
  obtain ⟨rfl, hresult⟩ := Visiting.run_uncached hrun
  rw [htold] at hresult
  rw [← hresult] at hreading
  rw [htold] at hvisited
  have hwf₁ : before.tree.WellFormed := hvisited ▸ hwf
  rw [hafter] at hseparate ⊢
  obtain ⟨hwf', -, hstore, hfailures⟩ := finish_leaves hwf₁ hfinish hseparate
  refine ⟨hwf', ⟨?_, ⟨hnodup, Listing.perm_groupedBy hnodup⟩, ?_⟩, ?_, ?_⟩
  · exact Listing.jobs_ofFailures hnodup fun p hp => ⟨(hlisted p hp).trimmed, (hlisted p hp).ne_nil⟩
  · exact ⟨_, _, result, events, htold, hrun, hreading, (finish_written hwf₁ hfinish).1⟩
  · rw [hstore, hvisited, hreading.records_eq, foundIn_ofFailures hnodup hlisted]
    rfl
  · rw [hfailures, hreading.distinctFilled_eq, failingIn_ofFailures hnodup hlisted]

/-- **A retry of logs that all fail leaves its list as it is.** -/
theorem retry_settled {still : List Text} (hwf : machine.tree.WellFormed)
    (hread : machine.tree.readFile plan.results.failures = .ok (Text.unlines still)) (hnodup : still.Nodup)
    (hlisted : ∀ p ∈ still, Store.IsListed p)
    (hsettled : stillFailing machine.tree.readFile plan.profile still = still)
    (h : Yields (retryBy visiting plan) machine summary after)
    (hseparate : still ≠ [] → plan.results.Separate after.tree n k) :
    after.tree.readFile plan.results.failures = .ok (Text.unlines still) := by
  have hpaths := Store.listedIn_unlines hnodup hlisted
  by_cases hne : still = []
  · rw [retry_nothing hread (hpaths.trans hne) h, hread]
  · obtain ⟨-, -, -, hlist⟩ := retry_leaves hwf hread (by rwa [hpaths]) h (hseparate hne)
    rw [(hseparate hne).readFile_failures, hlist, hpaths, hsettled]

/-- **A retry from end to end.** A list without paths leaves all files as they are. Otherwise each log in the list is
scanned once and without a cache, by the names of their directories; the store has the rows of the records behind what it
had, and what is read from the list are the logs that still fail. A log that is gone from it is missing or was scanned
without a failure, and the next retry, of logs that read the same, leaves the same bytes in the list. -/
theorem retry_rescans (hwf : machine.tree.WellFormed)
    (hread : machine.tree.readFile plan.results.failures = .ok content)
    (h : Yields (retryBy visiting plan) machine summary after)
    (hseparate : Store.listedIn content ≠ [] → plan.results.Separate after.tree n k) :
    let failed := Store.listedIn content
    let still := stillFailing machine.tree.readFile plan.profile failed
    (failed = [] → after.tree = machine.tree) ∧
    (failed ≠ [] →
      Rescan visiting plan failed machine summary ∧
      after.tree.bytesAt plan.results.records = machine.tree.bytesAt plan.results.records ++
        Csv.writeRows ((rescanned machine.tree.readFile plan.profile failed).map Store.rowOf) ∧
      (Store.readFailures plan.results.failures : StateM Machine _).run after = (.ok still, after) ∧
      (∀ p ∈ failed, p ∉ still → isAbsent machine.tree.readFile p = true ∨
        ∃ bytes, machine.tree.readFile p = .ok bytes ∧ (Run.scanLog plan.profile (jobAt p) bytes).1.failures = []) ∧
      ∀ visiting' machine' summary' after' n' k', machine'.tree.WellFormed →
        machine'.tree.readFile plan.results.failures = after.tree.readFile plan.results.failures →
        (∀ p ∈ still, machine'.tree.readFile p = machine.tree.readFile p) →
        Yields (retryBy visiting' plan) machine' summary' after' →
        (still ≠ [] → plan.results.Separate after'.tree n' k') →
        after'.tree.readFile plan.results.failures = after.tree.readFile plan.results.failures) := by
  intro failed still
  refine ⟨fun hnone => retry_nothing hread hnone h, fun hne => ?_⟩
  have hseparate := hseparate hne
  obtain ⟨-, hnodup, hlisted⟩ := failures_of_retry hread h
  obtain ⟨-, hrescan, hstore, hlist⟩ := retry_leaves hwf hread hne h hseparate
  have hnodup' : still.Nodup := nodup_stillFailing hnodup
  have hlisted' : ∀ p ∈ still, Store.IsListed p := fun p hp => hlisted p (mem_stillFailing.1 hp).1
  have hfailures := hseparate.readFile_failures.trans (congrArg _ hlist)
  refine ⟨hrescan, ?_, readFailures_written hfailures hnodup' hlisted', ?_, ?_⟩
  · rw [Tree.bytesAt_of_fileOf? hseparate.records, hstore]
  · intro p hp hgone
    have hclean : fails machine.tree.readFile plan.profile (jobAt p) = false := by
      rw [← Bool.not_eq_true]
      exact fun hfails => hgone (mem_stillFailing.2 ⟨hp, hfails⟩)
    rw [fails, Listing.path_jobAt] at hclean
    unfold isAbsent
    cases hbytes : machine.tree.readFile p with
    | error e =>
      rw [hbytes] at hclean
      exact .inl (by simpa using hclean)
    | ok bytes =>
      rw [hbytes] at hclean
      exact .inr ⟨bytes, rfl, by simpa using hclean⟩
  · intro visiting' machine' summary' after' n' k' hwf' hsame hlogs h' hseparate'
    rw [hfailures]
    exact retry_settled hwf' (hsame.trans hfailures) hnodup' hlisted' (stillFailing_stillFailing hlogs) h' hseparate'

end Retry

/-- A list with a blank line, a path in spaces, one with a carriage return, one that stands twice and one without a line
end. The first log has a finding and a broken header, the second is clean, the third must not be read, and the last is
missing. Two logs are left, and two workers at a time leave them again. -/
theorem retry_rescans_twice :
    let log : Text := Text.join [Text.lf] ["warning: Here is cast(fn f>A>B=>m>L)", "--> s"]
    let partly : Text := Text.join [Text.lf] ["warning: Here is cast(fn g>A>B=>m>L)", "--> t", "warning: Here is cast(x)"]
    let tree : Tree :=
      { nodes := [(["a"], .directory), (["x", "a"], .directory), (["l", "x", "a"], .file 0), (["b"], .directory),
          (["m", "b"], .file 1), (["c"], .directory), (["x", "c"], .directory), (["l", "x", "c"], .file 2),
          (["r"], .file 3), (["f"], .file 4)],
        contents := #[partly, log, log, "old", Text.unlines [" a/x/l ", "", "b/m\x0d", "a/x/l", "c/x/l"] ++ "gone"],
        unreadable := [(2, .denied)] }
    let plan : RetryPlan := { profile := ⟨"cast", [.cast], "cast.log"⟩, results := { records := "r", failures := "f" } }
    let choices : List Nat := [0, 1, 0, 1, 0, 1, 0, 1, 0, 1]
    ∃ summary after summary' after', Yields (retry plan) { tree } summary after ∧
      Yields (retryBy (.atOnce 2 8 choices) plan) after summary' after' ∧
      after.tree.bytesAt "r" = "old" ++ Csv.writeRows
        ([⟨.cast, "x", "g", "A", "B", "m", "L", "t", "a/x/l", 1⟩, ⟨.cast, "b", "f", "A", "B", "m", "L", "s", "b/m", 1⟩].map
          Store.rowOf) ∧
      (Store.readFailures "f" : StateM Machine _).run after = (.ok ["a/x/l", "c/x/l"], after) ∧
      after'.tree.readFile "f" = after.tree.readFile "f" := by
  intro log partly tree plan choices
  let list : Text := Text.unlines [" a/x/l ", "", "b/m\x0d", "a/x/l", "c/x/l"] ++ "gone"
  have hwf : tree.WellFormed := Tree.wellFormed_of_nodes (by decide) (by simp [tree])
  have hread : tree.readFile "f" = .ok list := by decide +kernel
  have hlisted : Store.listedIn list = [Text.ofString "a/x/l", "b/m", "c/x/l", "gone"] := by decide +kernel
  have hfound : rescanned tree.readFile plan.profile [Text.ofString "a/x/l", "b/m", "c/x/l", "gone"] =
      [⟨.cast, "x", "g", "A", "B", "m", "L", "t", "a/x/l", 1⟩, ⟨.cast, "b", "f", "A", "B", "m", "L", "s", "b/m", 1⟩] := by
    decide +kernel
  have hstill : stillFailing tree.readFile plan.profile [Text.ofString "a/x/l", "b/m", "c/x/l", "gone"] =
    [Text.ofString "a/x/l", "c/x/l"] := by decide +kernel
  have hold : tree.bytesAt "r" = "old" := by decide +kernel
  obtain ⟨summary, after, hfirst, hafter, hlogs, hnext⟩ : ∃ summary after,
      Yields (retryBy .oneByOne plan) { tree } summary after ∧ plan.results.Separate after.tree 3 4 ∧
      (∀ q ∈ [Text.ofString "a/x/l", "c/x/l"], after.tree.readFile q = tree.readFile q) ∧
      ∃ q ∈ outcome? (retryBy (.atOnce 2 8 choices) plan) after, plan.results.Separate q.2.tree 3 4 :=
    exists_yields (by decide +kernel)
  obtain ⟨summary', after', hsecond, hafter'⟩ : ∃ summary' after',
      Yields (retryBy (.atOnce 2 8 choices) plan) after summary' after' ∧ plan.results.Separate after'.tree 3 4 :=
    exists_yields hnext
  obtain ⟨hwf', -⟩ := retry_leaves hwf hread (by rw [hlisted]; simp) hfirst hafter
  obtain ⟨-, h⟩ := retry_rescans hwf hread hfirst fun _ => hafter
  obtain ⟨-, hstore, hlist, -, hagain⟩ := h (by rw [hlisted]; simp)
  rw [hlisted] at hstore hlist
  refine ⟨summary, after, summary', after', hfirst, hsecond, ?_, ?_, ?_⟩
  · rw [← hfound, ← hold]
    exact hstore
  · rw [← hstill]
    exact hlist
  · refine hagain _ _ _ _ _ _ hwf' rfl ?_ hsecond fun _ => hafter'
    rw [hlisted]
    exact fun q hq => hlogs q (hstill ▸ hq)

/-- **What a retry does not promise.** Logs of two directories with one name stand together, whatever is listed between
them; a list that is the store as well does not keep what the store had; and a summary that is written over the list
replaces it. -/
theorem retry_limits :
    let plan (records summary : Text) : RetryPlan :=
      { profile := ⟨"cast", [.cast], "cast.log"⟩, results := { records, failures := "f", summary } }
    let failed : List Text := ["a/x/l", "b/y/l", "c/x/l"]
    let tree : Tree :=
      { nodes := [(["a"], .directory), (["x", "a"], .directory), (["l", "x", "a"], .file 0), (["b"], .directory),
          (["y", "b"], .directory), (["l", "y", "b"], .file 0), (["c"], .directory), (["x", "c"], .directory),
          (["l", "x", "c"], .file 0), (["f"], .file 1)],
        contents := #["warning: Here is cast(x)", Text.unlines failed] }
    tree.WellFormed ∧ tree.readFile "f" = .ok (Text.unlines failed) ∧ Store.listedIn (Text.unlines failed) = failed ∧
    (∃ summary after, Yields (retry (plan "r" [])) { tree } summary after ∧
      ((Store.readFailures "f" : StateM Machine _).run after).1.toOption ≠
        some ((groupedBy Path.directory failed).filter fun p => fails tree.readFile (plan "r" []).profile (jobAt p))) ∧
    (∃ summary after, Yields (retry (plan "f" [])) { tree } summary after ∧
      after.tree.bytesAt "f" ≠ tree.bytesAt "f" ++
        Csv.writeRows ((rescanned tree.readFile (plan "f" []).profile failed).map Store.rowOf)) ∧
    ∃ summary after, Yields (retry (plan "r" "f")) { tree } summary after ∧
      ((Store.readFailures "f" : StateM Machine _).run after).1.toOption ≠
        some (stillFailing tree.readFile (plan "r" "f").profile failed) := by
  intro plan failed tree
  exact ⟨Tree.wellFormed_of_nodes (by decide) (by simp [tree]), by decide +kernel, by decide +kernel,
    exists_yields (by decide +kernel), exists_yields (by decide +kernel), exists_yields (by decide +kernel)⟩

end CastAudit.Command
