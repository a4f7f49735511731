import CastAudit.Proofs.Command.Quiet
import CastAudit.Proofs.Disk.Writing
import CastAudit.Proofs.Store.Failures
import CastAudit.Proofs.Store.Writers

/-!
# What a run leaves

* `Yields p machine a after` — a program that may fail succeeds with a result, on one machine and with another after it;
* `Results.Separate results tree n k` — the store and the failure list are two different files that can be read, and
  the summary, if there is one, is neither of them;
* `finish_steps` — the results of a run are written one after the other;
* `Results.Outside results tree folder` — no file in a folder is one of the results, and `finish_outside` — then nothing
  more can be read there;
* `finish_leaves` — the bytes of both files after that, and `readRecords_written`, `readFailures_written` — what is read
  back from such bytes.
-/

namespace CastAudit.Command

open Disk (Machine OpenFile Place Tree)

/-! ## programs that may fail -/

/-- The program succeeds. -/
def Yields {α : Type} (p : ExceptT Fault (StateM Machine) α) (machine : Machine) (a : α) (after : Machine) : Prop :=
  p.run.run machine = (.ok a, after)

/-- What a program gives and the machine after it, if it succeeds. -/
def outcome? {α : Type} (p : ExceptT Fault (StateM Machine) α) (machine : Machine) : Option (α × Machine) :=
  match p.run.run machine with
  | (.ok a, after) => some (a, after)
  | (.error _, _) => none

section Yields

variable {α β : Type} {machine after : Machine}

theorem yields_of_outcome? {p : ExceptT Fault (StateM Machine) α} {a : α} (h : outcome? p machine = some (a, after)) :
    Yields p machine a after := by
  unfold outcome? at h
  split at h
  · next hrun =>
    cases h
    exact hrun
  · cases h

/-- It can be checked that a program succeeds, and what holds of what it gives and of the machine after it. -/
theorem exists_yields {p : ExceptT Fault (StateM Machine) α} {Holds : α → Machine → Prop}
    (h : ∃ q ∈ outcome? p machine, Holds q.1 q.2) : ∃ a after, Yields p machine a after ∧ Holds a after := by
  obtain ⟨⟨a, after⟩, hrun, hholds⟩ := h
  exact ⟨a, after, yields_of_outcome? hrun, hholds⟩

/-- Two programs in a row succeed if the first does and the second does after it. -/
theorem yields_bind {p : ExceptT Fault (StateM Machine) α} {f : α → ExceptT Fault (StateM Machine) β} {b : β} :
    Yields (p >>= f) machine b after ↔ ∃ a between, Yields p machine a between ∧ Yields (f a) between b after := by
  have hrun : (p >>= f).run.run machine =
      match (p.run.run machine).1 with
      | .ok a => (f a).run.run (p.run.run machine).2
      | .error e => (.error e, (p.run.run machine).2) := by
    have hbind : (p >>= f).run.run machine =
      (ExceptT.bindCont f (p.run.run machine).1 : StateM Machine _).run (p.run.run machine).2 := rfl
    rw [hbind]
    cases (p.run.run machine).1 <;> rfl
  rw [Yields, hrun]
  constructor
  · intro h
    cases hp : p.run.run machine with
    | mk answer between =>
      rw [hp] at h
      cases answer with
      | error e => cases h
      | ok a => exact ⟨a, between, hp, h⟩
  · rintro ⟨a, between, hp, hf⟩
    rw [Yields] at hp hf
    rw [hp]
    exact hf

theorem yields_pure {a b : α} : Yields (pure a) machine b after ↔ a = b ∧ machine = after := by
  have hrun : Yields (pure a) machine b after ↔ ((.ok a : Except Fault α), machine) = (.ok b, after) := Iff.rfl
  rw [hrun, Prod.mk.injEq, Except.ok.injEq]

theorem yields_mk {p : StateM Machine (Except Fault α)} {a : α} :
    Yields (ExceptT.mk p) machine a after ↔ p.run machine = (.ok a, after) := Iff.rfl

theorem yields_lift {p : StateM Machine α} {a : α} :
    Yields (ExceptT.lift p) machine a after ↔ p.run machine = (a, after) := by
  have hrun : Yields (ExceptT.lift p) machine a after ↔
    ((.ok (p.run machine).1 : Except Fault α), (p.run machine).2) = (.ok a, after) := Iff.rfl
  rw [hrun, Prod.mk.injEq, Except.ok.injEq, ← Prod.mk.injEq]
  exact Iff.rfl

theorem Yields.quiet {p : StateM Machine α} (hp : Quiet p) {a : α} (h : Yields (ExceptT.lift p) machine a after) :
    after.tree = machine.tree :=
  hp.tree_eq (yields_lift.1 h)

theorem Yields.printed {p : StateM Machine α} (hp : Quiet p) {a : α} (h : Yields (ExceptT.lift p) machine a after) :
    machine.printed <:+ after.printed := by
  have hquiet := hp.printed machine
  rw [yields_lift.1 h] at hquiet
  exact hquiet

theorem Yields.quiet_forM {f : α → StateM Machine Unit} (hf : ∀ a, Quiet (f a)) (xs : List α) :
    ∀ {machine : Machine} {u : Unit}, Yields (xs.forM fun a => ExceptT.lift (f a)) machine u after →
      after.tree = machine.tree := by
  induction xs with
  | nil =>
    intro machine u h
    rw [(yields_pure.1 h).2]
  | cons x xs ih =>
    intro machine u h
    obtain ⟨_, between, hx, hxs⟩ := yields_bind.1 h
    rw [ih hxs, hx.quiet (hf x)]

end Yields

/-! ## single files -/

section Files

variable {machine after : Machine} {path : Text} {fresh : Bool}

theorem run_append (file : OpenFile) (bytes : Text) (machine : Machine) :
    (Disk.Host.append file bytes : StateM Machine _).run machine =
      ((machine.tree.append file bytes).1, { machine with tree := (machine.tree.append file bytes).2 }) := rfl

/-- Records are written to the store as their rows. -/
theorem writeRecords_ok {records : List Record} (hwf : machine.tree.WellFormed)
    (h : (writeRecords path fresh records : StateM Machine _).run machine = (.ok (), after)) :
    machine.tree.Written path fresh (Csv.writeRows (records.map Store.rowOf)) after.tree := by
  rw [writeRecords, Machine.run_seq] at h
  cases hopen : (Store.Writer.openAt path fresh : StateM Machine _).run machine with
  | mk answer opened =>
    rw [hopen] at h
    cases answer with
    | error e => cases h
    | ok w =>
      obtain ⟨hopened, hclosed, hstuck⟩ := Store.openAt_ok hwf hopen
      refine ⟨w.handle, opened.tree, hopened, ?_⟩
      have hsend : (w.send (Csv.writeRows (records.map Store.rowOf)) : StateM Machine _).run opened =
          ((opened.tree.append w.handle (Csv.writeRows (records.map Store.rowOf))).1,
            { opened with tree := (opened.tree.append w.handle (Csv.writeRows (records.map Store.rowOf))).2 }) := by
        unfold Store.Writer.send
        split
        · next hempty =>
          have hnothing : opened.tree.append w.handle (Csv.writeRows (records.map Store.rowOf)) =
            (.ok (), opened.tree) := by simp [Tree.append, hempty]
          rw [hnothing]
          rfl
        · rw [if_neg (by simp [hclosed])]
          rfl
      simp only [Machine.run_seq, Store.Writer.write, hstuck, hsend] at h
      revert h
      cases opened.tree.append w.handle (Csv.writeRows (records.map Store.rowOf)) with
      | mk answer t =>
        intro h
        cases answer with
        | error e => cases h
        | ok u =>
          cases h
          rfl

/-- Failing logs are written to the list, one on a line. -/
theorem writeFailures_ok {paths : List Text} (hwf : machine.tree.WellFormed)
    (h : (Store.writeFailures path paths fresh : StateM Machine _).run machine = (.ok (), after)) :
    machine.tree.Written path fresh (Text.unlines (Store.distinctFilled paths)) after.tree := by
  rw [Store.writeFailures, Machine.run_seq] at h
  cases hopen : (Store.openOutput path fresh : StateM Machine _).run machine with
  | mk answer opened =>
    rw [hopen] at h
    cases answer with
    | error e => cases h
    | ok file =>
      refine ⟨file, opened.tree, Store.openOutput_ok hwf hopen, ?_⟩
      simp only [Machine.run_seq, run_append] at h
      revert h
      cases opened.tree.append file (Text.unlines (Store.distinctFilled paths)) with
      | mk answer t =>
        intro h
        cases answer with
        | error e => cases h
        | ok u =>
          cases h
          rfl

theorem writeFile_ok {content : Text} (hwf : machine.tree.WellFormed)
    (h : (writeFile path content : StateM Machine _).run machine = (.ok (), after)) :
    machine.tree.Written path true content after.tree := by
  rw [writeFile, Machine.run_seq] at h
  cases hmade : ((Disk.makeParent path : StateM Machine _).run machine).1 with
  | error e =>
    rw [hmade] at h
    cases h
  | ok u =>
    have hopen : (Disk.Host.openAppend path true : StateM Machine _).run
        ((Disk.makeParent path : StateM Machine _).run machine).2 =
      let before := ((Disk.makeParent path : StateM Machine _).run machine).2
      ((before.tree.openAppend path true).1, { before with tree := (before.tree.openAppend path true).2 }) := rfl
    rw [hmade] at h
    simp only [Machine.run_seq, hopen] at h
    cases hopened : ((Disk.makeParent path : StateM Machine _).run machine).2.tree.openAppend path true with
    | mk answer t =>
      rw [hopened] at h
      cases answer with
      | error e => cases h
      | ok file =>
        refine ⟨file, t, Tree.opened_of_run hwf hmade hopened, ?_⟩
        simp only [Machine.run_seq, run_append] at h
        revert h
        cases t.append file content with
        | mk answer t' =>
          intro h
          cases answer with
          | error e => cases h
          | ok u =>
            cases h
            rfl

/-- A report is printed, or written to its file. -/
theorem writeReport_ok {report : Report} (hwf : machine.tree.WellFormed)
    (h : (writeReport path report : StateM Machine _).run machine = (.ok (), after)) :
    isStandard path = true ∧ after.tree = machine.tree ∧ report.print ++ [Text.lf] ∈ after.printed ∨
      isStandard path = false ∧ machine.tree.Written path true (report.print ++ [Text.lf]) after.tree := by
  rw [writeReport, Machine.run_seq] at h
  cases hwrite : (writeOutput path (report.print ++ [Text.lf]) : StateM Machine _).run machine with
  | mk answer written =>
    rw [hwrite] at h
    cases answer with
    | error f => cases h
    | ok u =>
      have hquiet := quiet_warnOfViolations report
      simp only [Machine.run_seq] at h
      have hafter : ((warnOfViolations report : StateM Machine _).run written).2 = after := (Prod.mk.inj h).2
      have htree : after.tree = written.tree := hafter ▸ hquiet.tree written
      have hprinted : written.printed <:+ after.printed := hafter ▸ hquiet.printed written
      rw [htree]
      unfold writeOutput at hwrite
      split at hwrite
      · next hstandard =>
        have hwritten := (Prod.mk.inj hwrite).2
        refine .inl ⟨hstandard, by rw [← hwritten], hprinted.mem ?_⟩
        rw [← hwritten]
        exact List.mem_cons_self ..
      · next hstandard => exact .inr ⟨by simpa using hstandard, writeFile_ok hwf hwrite⟩

end Files

/-! ## all results -/

/-- The store and the failure list are two different files that can be read, and the summary is neither of them. -/
structure Results.Separate (results : Results) (t : Tree) (n k : Nat) : Prop where
  records : t.fileOf? results.records = some n
  failures : t.fileOf? results.failures = some k
  different : n ≠ k
  readable : t.unreadable.lookup n = none ∧ t.unreadable.lookup k = none
  summary : isStandard results.summary = false →
    t.fileOf? results.summary ≠ some n ∧ t.fileOf? results.summary ≠ some k

instance (results : Results) (t : Tree) (n k : Nat) : Decidable (results.Separate t n k) :=
  decidable_of_iff (t.fileOf? results.records = some n ∧ t.fileOf? results.failures = some k ∧ n ≠ k ∧
      (t.unreadable.lookup n = none ∧ t.unreadable.lookup k = none) ∧
      (isStandard results.summary = false → t.fileOf? results.summary ≠ some n ∧ t.fileOf? results.summary ≠ some k))
    ⟨fun ⟨hn, hk, hne, hread, hsummary⟩ => ⟨hn, hk, hne, hread, hsummary⟩,
      fun ⟨hn, hk, hne, hread, hsummary⟩ => ⟨hn, hk, hne, hread, hsummary⟩⟩

/-- The files of the results. -/
def Results.files (results : Results) (t : Tree) : List Nat :=
  [t.fileOf? results.records, t.fileOf? results.failures,
    if isStandard results.summary then none else t.fileOf? results.summary].filterMap id

theorem Results.mem_files {results : Results} {t : Tree} {n : Nat} :
    n ∈ results.files t ↔ t.fileOf? results.records = some n ∨ t.fileOf? results.failures = some n ∨
      isStandard results.summary = false ∧ t.fileOf? results.summary = some n := by
  cases hstandard : isStandard results.summary <;> simp [files, hstandard, eq_comm]

/-- No file in a folder is one of the results. -/
def Results.Outside (results : Results) (t : Tree) (folder : Place) : Prop :=
  ∀ name n, t.node? (name :: folder) = some (.file n) → n ∉ results.files t

/-- It is enough to look at the nodes. -/
theorem Results.outside_of_nodes {results : Results} {t : Tree} {folder : Place}
    (h : ∀ e ∈ t.nodes, e.1.tail = folder → ∀ n ∈ results.files t, e.2 ≠ .file n) : results.Outside t folder :=
  fun _ n hnode hn => h _ (Tree.mem_of_node? hnode) rfl n hn rfl

section Finish

variable {machine after : Machine} {profile : Profile} {results : Results} {verbose fresh : Bool} {logs n k : Nat}
  {result : RunResult} {summary : ScanSummary}

/-- The results are written one after the other: the records, the failing logs, the summary. -/
theorem finish_steps {freshFailures : Bool} (hwf : machine.tree.WellFormed)
    (h : Yields (finish profile results verbose fresh freshFailures logs result) machine summary after) :
    summary = summaryOf profile logs result ∧
    ∃ t₁ m, machine.tree.Written results.records fresh (Csv.writeRows (result.records.map Store.rowOf)) t₁ ∧
      t₁.Written results.failures freshFailures (Text.unlines (Store.distinctFilled (retryList result.failures))) m.tree ∧
      (results.summary = [] ∧ after.tree = m.tree ∨
        ∃ m', (writeReport results.summary (.scan summary) : StateM Machine _).run m = (.ok (), m') ∧
          after.tree = m'.tree ∧ m'.printed <:+ after.printed) := by
  obtain ⟨_, m₁, hrecords, h⟩ := yields_bind.1 h
  obtain ⟨_, m₂, hfailures, h⟩ := yields_bind.1 h
  obtain ⟨_, m₃, hmissing, h⟩ := yields_bind.1 h
  obtain ⟨_, m₄, hwarn, h⟩ := yields_bind.1 h
  have hfirst := writeRecords_ok hwf (yields_mk.1 hrecords)
  have hsecond := writeFailures_ok (hfirst.wellFormed hwf) (yields_mk.1 hfailures)
  have hquiet : m₄.tree = m₂.tree := by
    rw [hwarn.quiet (quiet_warnOfDatabase results), hmissing.quiet_forM (fun _ => quiet_detail _ _) _]
  rw [← hquiet] at hsecond
  -- what follows the summary is only told
  have hboxes {m : Machine} (hrest : Yields (do
      ExceptT.lift (detailBox verbose (Box.scanSummary (summaryOf profile logs result)))
      ExceptT.lift (detailBox verbose (Box.failures result.failures))
      return summaryOf profile logs result) m summary after) :
      summary = summaryOf profile logs result ∧ after.tree = m.tree ∧ m.printed <:+ after.printed := by
    obtain ⟨_, m₅, hbox, hrest⟩ := yields_bind.1 hrest
    obtain ⟨_, m₆, hbox', hrest⟩ := yields_bind.1 hrest
    obtain ⟨hsummary, rfl⟩ := yields_pure.1 hrest
    exact ⟨hsummary.symm, by rw [hbox'.quiet (quiet_detailBox _ _), hbox.quiet (quiet_detailBox _ _)],
      (hbox.printed (quiet_detailBox _ _)).trans (hbox'.printed (quiet_detailBox _ _))⟩
  simp only at h
  split at h
  · obtain ⟨_, m₅, hreport, h⟩ := yields_bind.1 h
    obtain ⟨hsummary, htree, hprinted⟩ := hboxes h
    exact ⟨hsummary, m₁.tree, m₄, hfirst, hsecond, .inr ⟨m₅, hsummary ▸ yields_mk.1 hreport, htree, hprinted⟩⟩
  · next hnone =>
    obtain ⟨hsummary, htree, -⟩ := hboxes h
    exact ⟨hsummary, m₁.tree, m₄, hfirst, hsecond, .inl ⟨by simpa using hnone, htree⟩⟩

/-- The trees between the results that are written. -/
theorem finish_written (hwf : machine.tree.WellFormed)
    (h : Yields (finish profile results verbose fresh true logs result) machine summary after) :
    summary = summaryOf profile logs result ∧
    ∃ t₁ t₂, machine.tree.Written results.records fresh (Csv.writeRows (result.records.map Store.rowOf)) t₁ ∧
      t₁.Written results.failures true (Text.unlines (Store.distinctFilled (retryList result.failures))) t₂ ∧
      (after.tree = t₂ ∨
        isStandard results.summary = false ∧ ∃ bytes, t₂.Written results.summary true bytes after.tree) := by
  obtain ⟨hsummary, t₁, m, hfirst, hsecond, hlast⟩ := finish_steps hwf h
  refine ⟨hsummary, t₁, m.tree, hfirst, hsecond, ?_⟩
  rcases hlast with ⟨-, hsame⟩ | ⟨m', hreport, hafter, -⟩
  · exact .inl hsame
  · rw [hafter]
    rcases writeReport_ok (hsecond.wellFormed (hfirst.wellFormed hwf)) hreport with
      ⟨-, hsame, -⟩ | ⟨hstandard, hwritten⟩
    · exact .inl hsame
    · exact .inr ⟨hstandard, _, hwritten⟩

/-- **What a run leaves.** If the store and the failure list are two different files, the store has the rows of the
records behind what it had, or alone if it is fresh, and the list has the failing logs. -/
theorem finish_leaves (hwf : machine.tree.WellFormed)
    (h : Yields (finish profile results verbose fresh true logs result) machine summary after)
    (hseparate : results.Separate after.tree n k) :
    after.tree.WellFormed ∧ Tree.Extends machine.tree after.tree ∧
    after.tree.content n = (if fresh then [] else machine.tree.bytesAt results.records) ++
      Csv.writeRows (result.records.map Store.rowOf) ∧
    after.tree.content k = Text.unlines (Store.distinctFilled (retryList result.failures)) := by
  obtain ⟨-, t₁, t₂, hfirst, hsecond, hthird⟩ := finish_written hwf h
  have hwf₁ := hfirst.wellFormed hwf
  have hwf₂ := hsecond.wellFormed hwf₁
  -- the summary changes neither file
  have hlast : after.tree.WellFormed ∧ Tree.Extends t₂ after.tree ∧
      ∀ j, j = n ∨ j = k → j < t₂.contents.size → after.tree.content j = t₂.content j := by
    rcases hthird with hsame | ⟨hstandard, bytes, hwritten⟩
    · rw [hsame]
      exact ⟨hwf₂, .refl t₂, fun _ _ _ => rfl⟩
    · refine ⟨hwritten.wellFormed hwf₂, hwritten.extends, fun j hj hsize => ?_⟩
      rw [hwritten.content hwf₂ (.inl hsize), if_neg]
      rcases hj with rfl | rfl
      · exact (hseparate.summary hstandard).1
      · exact (hseparate.summary hstandard).2
  obtain ⟨hwf₃, hextends, hkeep⟩ := hlast
  have hn₁ : t₁.fileOf? results.records = some n :=
    hfirst.fileOf? (hsecond.extends.trans hextends) hseparate.records
  have hk₂ : t₂.fileOf? results.failures = some k := hsecond.fileOf? hextends hseparate.failures
  have hn₂ : n < t₂.contents.size := (hwf₁.fileOf?_lt hn₁).trans_le hsecond.extends.size
  refine ⟨hwf₃, hfirst.extends.trans (hsecond.extends.trans hextends), ?_, ?_⟩
  · have hother : t₂.fileOf? results.failures ≠ some n := by
      rw [hk₂]
      exact fun heq => hseparate.different (Option.some.inj heq).symm
    rw [hkeep n (.inl rfl) hn₂, hsecond.content hwf₁ (.inl (hwf₁.fileOf?_lt hn₁)), if_neg hother,
      hfirst.content hwf (.inr hn₁), if_pos hn₁]
  · rw [hkeep k (.inr rfl) (hwf₂.fileOf?_lt hk₂), hsecond.content hwf₁ (.inr hk₂), if_pos hk₂, if_pos rfl,
      List.nil_append]

/-- **A run reveals nothing in a folder** that no result is in. What can be read from a file there after it could be read
before. -/
theorem finish_outside (hwf : machine.tree.WellFormed)
    (h : Yields (finish profile results verbose fresh true logs result) machine summary after) {folder : Place}
    (houtside : results.Outside after.tree folder) {path name content : Text} (hroute : Path.IsRoute (Path.parts path))
    (hplace : after.tree.placeOf path = name :: folder) (hread : after.tree.readFile path = .ok content) :
    machine.tree.readFile path = .ok content := by
  obtain ⟨-, t₁, t₂, hfirst, hsecond, hthird⟩ := finish_written hwf h
  have hwf₁ := hfirst.wellFormed hwf
  have hwf₂ := hsecond.wellFormed hwf₁
  -- at the end the path leads to no result, and so it never did
  have hapart {n : Nat} (hn : after.tree.fileOf? path = some n) : n ∉ results.files after.tree := by
    obtain ⟨place, hl⟩ := Tree.fileOf?_eq_some.1 hn
    have hnode := (Tree.locate_eq_present.1 hl).2.node?_last (fun h => absurd rfl h) (by simp)
    rw [← Tree.placeOf_of_present hl, hplace] at hnode
    exact houtside name n hnode
  have hlast : Tree.Extends t₂ after.tree ∧ t₂.readFile path = .ok content := by
    rcases hthird with hsame | ⟨hstandard, bytes, hwritten⟩
    · rw [← hsame]
      exact ⟨.refl _, hread⟩
    · refine ⟨hwritten.extends, hwritten.readFile hwf₂ hroute (fun n hn hp => ?_) hread⟩
      exact hapart hp (Results.mem_files.2 (.inr (.inr ⟨hstandard, hn⟩)))
  obtain ⟨hextends, hread₂⟩ := hlast
  have hread₁ : t₁.readFile path = .ok content := by
    refine hsecond.readFile hwf₁ hroute (fun n hn hp => ?_) hread₂
    exact hapart (hextends.fileOf? hp) (Results.mem_files.2 (.inr (.inl (hextends.fileOf? hn))))
  have hextends₁ := hsecond.extends.trans hextends
  refine hfirst.readFile hwf hroute (fun n hn hp => ?_) hread₁
  exact hapart (hextends₁.fileOf? hp) (Results.mem_files.2 (.inl (hextends₁.fileOf? hn)))

end Finish

/-! ## results can be left -/

/-- Failing logs can be written to a list that can be opened. -/
theorem writeFailures_yields {path : Text} {fresh : Bool} {machine opened : Machine} {file : OpenFile} {n : Nat}
    (hopen : (Store.openOutput path fresh : StateM Machine _).run machine = (.ok file, opened))
    (hfile : file.node = .file n) (hn : n < opened.tree.contents.size) (paths : List Text) :
    ∃ after, (Store.writeFailures path paths fresh : StateM Machine _).run machine = (.ok (), after) ∧
      Tree.Extends opened.tree after.tree := by
  obtain ⟨hok, happended⟩ := Tree.append_file hfile hn (Text.unlines (Store.distinctFilled paths))
  refine ⟨{ opened with tree := (opened.tree.append file (Text.unlines (Store.distinctFilled paths))).2 }, ?_,
    happended.kept⟩
  rw [Store.writeFailures, Machine.run_seq, hopen]
  simp only [Machine.run_seq, run_append, hok]
  rfl

/-- Results can be left if both files can be written, and nothing else is asked for. -/
theorem finish_yields {profile : Profile} {results : Results} {freshRecords freshFailures : Bool} {logs : Nat}
    {result : RunResult} {machine m₁ m₂ : Machine} (hdatabase : results.database = []) (hsummary : results.summary = [])
    (hrecords : (writeRecords results.records freshRecords result.records : StateM Machine _).run machine = (.ok (), m₁))
    (hfailures : (Store.writeFailures results.failures (retryList result.failures) freshFailures : StateM Machine _).run
      m₁ = (.ok (), m₂)) :
    Yields (finish profile results false freshRecords freshFailures logs result) machine
      (summaryOf profile logs result) m₂ := by
  have hmissing : ∀ paths : List Text, Yields (paths.forM fun path => ExceptT.lift (detail false ("missing log: " ++ path)))
      m₂ () m₂ := by
    intro paths
    induction paths with
    | nil => rfl
    | cons path paths ih => exact yields_bind.2 ⟨(), m₂, rfl, ih⟩
  refine yields_bind.2 ⟨(), m₁, hrecords, yields_bind.2 ⟨(), m₂, hfailures, yields_bind.2 ⟨(), m₂, hmissing _, ?_⟩⟩⟩
  have hwarn : Yields (ExceptT.lift (warnOfDatabase results)) m₂ () m₂ := by
    rw [yields_lift, warnOfDatabase, hdatabase]
    rfl
  refine yields_bind.2 ⟨(), m₂, hwarn, ?_⟩
  simp only [hsummary]
  rfl

/-! ## reading results -/

section Reading

variable {machine : Machine} {path : Text}

/-- Records without line ends are read from a store as they were written. -/
theorem readRecords_written {records : List Record}
    (hread : machine.tree.readFile path = .ok (Csv.writeRows (records.map Store.rowOf)))
    (hstorable : ∀ r ∈ records, r.Storable ∧ r.lineFeeds = r) :
    (Store.readRecords path : StateM Machine _).run machine = (.ok records, machine) := by
  have hrun : (Disk.Host.readFile path : StateM Machine _).run machine = (machine.tree.readFile path, machine) := rfl
  have hsame : records.map Record.lineFeeds = records := by
    conv_rhs => rw [← List.map_id records]
    exact List.map_congr_left fun r hr => (hstorable r hr).2
  have hrecords := Store.recordsOf_writeRows path fun r hr => (hstorable r hr).1
  rw [hsame] at hrecords
  rw [Store.readRecords, Machine.run_seq, hrun, hread, ← hrecords]
  rfl

/-- Failing logs are read from a list as they were written. -/
theorem readFailures_written {paths : List Text} (hread : machine.tree.readFile path = .ok (Text.unlines paths))
    (hnodup : paths.Nodup) (hlisted : ∀ p ∈ paths, Store.IsListed p) :
    (Store.readFailures path : StateM Machine _).run machine = (.ok paths, machine) := by
  have hrun : (Disk.Host.readFile path : StateM Machine _).run machine = (machine.tree.readFile path, machine) := rfl
  rw [Store.readFailures, Machine.run_seq, hrun, hread, ← Store.failuresOf_unlines path hnodup hlisted]
  rfl

variable {results : Results} {n k : Nat}

theorem Results.Separate.readFile_records (h : results.Separate machine.tree n k) :
    machine.tree.readFile results.records = .ok (machine.tree.content n) :=
  Tree.readFile_of_fileOf? h.records h.readable.1

theorem Results.Separate.readFile_failures (h : results.Separate machine.tree n k) :
    machine.tree.readFile results.failures = .ok (machine.tree.content k) :=
  Tree.readFile_of_fileOf? h.failures h.readable.2

end Reading

end CastAudit.Command
