import CastAudit.Proofs.Disk.Opening
import CastAudit.Proofs.Store.Records

/-!
# Histories of writers

Any number of writers of one store may be opened, written to and closed in any order.

* `Desk.play path desk steps` — a history of such steps, on a machine;
* `Ledger.play steps` — what the store should hold after it, told from the steps alone;
* `Held path n desk ledger` — the file with number `n` holds the rows of the ledger's records, and every writer that
  is open writes to it. One step keeps this (`Held.step`);
* `readRecords_play` — the records of the ledger are read back.
-/

namespace CastAudit.Store

open Disk (Machine OpenFile Tree)

/-! ## opening and writing -/

section Files

variable {machine machine' : Machine} {path : Text} {fresh : Bool}

theorem openOutput_ok {file : OpenFile} (hwf : machine.tree.WellFormed)
    (h : (openOutput path fresh : StateM Machine _).run machine = (.ok file, machine')) :
    Tree.Opened machine.tree path fresh file machine'.tree := by
  rw [openOutput, Machine.run_seq] at h
  cases hmade : ((Disk.makeParent path : StateM Machine _).run machine).1 with
  | error e =>
    rw [hmade] at h
    cases h
  | ok u =>
    have hopen : (Disk.Host.openAppend path fresh : StateM Machine _).run
        ((Disk.makeParent path : StateM Machine _).run machine).2 =
      let before := ((Disk.makeParent path : StateM Machine _).run machine).2
      ((before.tree.openAppend path fresh).1, { before with tree := (before.tree.openAppend path fresh).2 }) := rfl
    rw [hmade] at h
    simp only [Machine.run_seq, hopen] at h
    refine Tree.opened_of_run hwf hmade ?_
    revert h
    generalize ((Disk.makeParent path : StateM Machine _).run machine).2.tree.openAppend path fresh = answer
    obtain ⟨result, t'⟩ := answer
    intro h
    cases result with
    | error e => cases h
    | ok file =>
      cases h
      rfl

theorem openAt_ok {w : Writer OpenFile} (hwf : machine.tree.WellFormed)
    (h : (Writer.openAt path fresh : StateM Machine _).run machine = (.ok w, machine')) :
    Tree.Opened machine.tree path fresh w.handle machine'.tree ∧ w.closed = false ∧ w.stuck = none := by
  rw [Writer.openAt, Machine.run_seq] at h
  cases hopen : (openOutput path fresh : StateM Machine _).run machine with
  | mk answer after =>
    rw [hopen] at h
    cases answer with
    | error e => cases h
    | ok file =>
      cases h
      exact ⟨openOutput_ok hwf hopen, rfl, rfl⟩

/-- A writer that is open appends the rows of its records. -/
theorem write_open {w : Writer OpenFile} {n : Nat} (hopen : w.closed = false) (hstuck : w.stuck = none)
    (hfile : w.handle.node = .file n) (hn : n < machine.tree.contents.size) (records : List Record) :
    ∃ machine', (w.write records : StateM Machine _).run machine = ((.ok (), w), machine') ∧
      Tree.Appended machine.tree n (Csv.writeRows (records.map rowOf)) machine'.tree := by
  obtain ⟨hok, happended⟩ := Tree.append_file hfile hn (Csv.writeRows (records.map rowOf))
  have hsend : (w.send (Csv.writeRows (records.map rowOf)) : StateM Machine _).run machine =
      (.ok (), { machine with tree := (machine.tree.append w.handle (Csv.writeRows (records.map rowOf))).2 }) := by
    unfold Writer.send
    split
    · next hempty =>
      have hsame : (machine.tree.append w.handle (Csv.writeRows (records.map rowOf))).2 = machine.tree := by
        simp [Tree.append, hempty]
      rw [hsame]
      rfl
    · rw [if_neg (by simp [hopen]), ← hok]
      rfl
  refine ⟨{ machine with tree := (machine.tree.append w.handle (Csv.writeRows (records.map rowOf))).2 }, ?_, happended⟩
  simp only [Writer.write, hstuck, Machine.run_seq, hsend]
  rfl

/-- A writer that is closed writes nothing. -/
theorem write_closed {w : Writer OpenFile} (hclosed : w.closed = true) (records : List Record) (machine : Machine) :
    ((w.write records : StateM Machine _).run machine).2 = machine ∧
      ((w.write records : StateM Machine _).run machine).1.2.closed = true ∧
      ((w.write records : StateM Machine _).run machine).1.2.handle = w.handle := by
  have hsend : ∃ answer, (w.send (Csv.writeRows (records.map rowOf)) : StateM Machine _).run machine =
      (answer, machine) := by
    unfold Writer.send
    rw [if_pos hclosed]
    split
    · exact ⟨_, rfl⟩
    · exact ⟨_, rfl⟩
  obtain ⟨answer, hsend⟩ := hsend
  cases hstuck : w.stuck with
  | some e =>
    simp only [Writer.write, hstuck]
    exact ⟨rfl, hclosed, rfl⟩
  | none =>
    simp only [Writer.write, hstuck, Machine.run_seq, hsend]
    cases answer <;> exact ⟨rfl, hclosed, rfl⟩

end Files

/-! ## histories -/

/-- A step of a history. The writers are numbered in the order in which they are opened. -/
inductive Step where
  /-- One more writer is opened. -/
  | start (fresh : Bool)
  | write (writer : Nat) (records : List Record)
  | close (writer : Nat)
deriving Repr, DecidableEq

/-- A machine with the writers of one store. -/
structure Desk where
  machine : Machine
  writers : List (Writer OpenFile) := []

/-- A step on a desk, unless it is refused or there is no such writer. -/
def Desk.step (path : Text) (desk : Desk) : Step → Option Desk
  | .start fresh =>
    match (Writer.openAt path fresh : StateM Machine _).run desk.machine with
    | (.ok w, machine) => some ⟨machine, desk.writers ++ [w]⟩
    | (.error _, _) => none
  | .write i records =>
    desk.writers[i]?.map fun w =>
      let after := (w.write records : StateM Machine _).run desk.machine
      ⟨after.2, desk.writers.set i after.1.2⟩
  | .close i => desk.writers[i]?.map fun w => { desk with writers := desk.writers.set i w.close }

/-- Steps on a desk. -/
def Desk.play (path : Text) (desk : Desk) (steps : List Step) : Option Desk := steps.foldlM (Desk.step path) desk

/-- What a history is to leave: which writers are open, and the records of the store. -/
structure Ledger where
  isOpen : List Bool := []
  records : List Record := []
deriving Repr, DecidableEq

/-- A fresh writer throws the records away, a writer that is open adds to them, and one that is closed does not. -/
def Ledger.step (ledger : Ledger) : Step → Ledger
  | .start fresh => ⟨ledger.isOpen ++ [true], if fresh then [] else ledger.records⟩
  | .write i records =>
    if ledger.isOpen[i]? = some true then { ledger with records := ledger.records ++ records } else ledger
  | .close i => { ledger with isOpen := ledger.isOpen.set i false }

/-- What the steps leave. -/
def Ledger.play (steps : List Step) : Ledger := steps.foldl Ledger.step {}

/-! ## the invariant -/

/-- The writer writes to the file with a number; a refusal has only met it closed. -/
structure WritesTo (n : Nat) (w : Writer OpenFile) : Prop where
  file : w.handle.node = .file n
  free : w.closed = false → w.stuck = none

/-- The file with a number is the store, and it holds what the ledger says. -/
structure Held (path : Text) (n : Nat) (desk : Desk) (ledger : Ledger) : Prop where
  tree : desk.machine.tree.WellFormed
  file : desk.machine.tree.fileOf? path = some n
  readable : desk.machine.tree.unreadable.lookup n = none
  content : desk.machine.tree.content n = Csv.writeRows (ledger.records.map rowOf)
  writers : ∀ w ∈ desk.writers, WritesTo n w
  isOpen : desk.writers.map (fun w => !w.closed) = ledger.isOpen

section Invariant

variable {path : Text} {n : Nat} {desk desk' : Desk} {ledger : Ledger}

theorem Held.start (h : Held path n desk ledger) {fresh : Bool}
    (hstep : desk.step path (.start fresh) = some desk') : Held path n desk' (ledger.step (.start fresh)) := by
  simp only [Desk.step] at hstep
  split at hstep
  · next w machine hrun =>
    cases hstep
    obtain ⟨hopened, hopen, hstuck⟩ := openAt_ok h.tree hrun
    -- the path leads to the same file as before
    have hnode : w.handle.node = .file n := hopened.node_of_file h.file
    refine ⟨hopened.wellFormed h.tree, hopened.fileOf? hnode, ?_, ?_, ?_, ?_⟩
    · rw [hopened.extends.unreadable]
      exact h.readable
    · rw [hopened.content h.tree hnode n (.inr rfl), if_pos rfl, h.file, h.content]
      cases fresh <;> simp [Ledger.step, Csv.writeRows]
    · intro w' hw'
      rcases List.mem_append.1 hw' with hw' | hw'
      · exact h.writers w' hw'
      · rw [List.mem_singleton.1 hw']
        exact ⟨hnode, fun _ => hstuck⟩
    · simp [Ledger.step, ← h.isOpen, hopen]
  · cases hstep

/-- Records are written. -/
theorem Held.write (h : Held path n desk ledger) {i : Nat} {records : List Record}
    (hstep : desk.step path (.write i records) = some desk') :
    Held path n desk' (ledger.step (.write i records)) := by
  obtain ⟨w, hw, rfl⟩ := Option.map_eq_some_iff.1 hstep
  have hwrites := h.writers w (List.mem_of_getElem? hw)
  have hflag : ledger.isOpen[i]? = some (!w.closed) := by
    rw [← h.isOpen, List.getElem?_map, hw]
    rfl
  have hkeep {w' : Writer OpenFile} (hsame : w'.closed = w.closed) :
      (desk.writers.set i w').map (fun w => !w.closed) = ledger.isOpen := by
    obtain ⟨hlt, heq⟩ := List.getElem?_eq_some_iff.1 hflag
    rw [List.map_set, h.isOpen, hsame, ← heq, List.set_getElem_self]
  have hset {w' : Writer OpenFile} (hw' : WritesTo n w') : ∀ v ∈ desk.writers.set i w', WritesTo n v := by
    intro v hv
    rcases List.mem_or_eq_of_mem_set hv with hv | rfl
    · exact h.writers v hv
    · exact hw'
  cases hclosed : w.closed with
  | false =>
    obtain ⟨machine', hrun, happended⟩ := write_open hclosed (hwrites.free hclosed) hwrites.file
      (h.tree.fileOf?_lt h.file) records
    have hledger : ledger.step (.write i records) = { ledger with records := ledger.records ++ records } := by
      simp [Ledger.step, hflag, hclosed]
    simp only [hrun, hledger]
    refine ⟨happended.wellFormed h.tree, happended.kept.fileOf? h.file, ?_, ?_, hset hwrites, hkeep rfl⟩
    · rw [happended.kept.unreadable]
      exact h.readable
    · rw [happended.content, if_pos rfl, h.content, List.map_append, Csv.writeRows_append]
  | true =>
    obtain ⟨hmachine, hstill, hhandle⟩ := write_closed hclosed records desk.machine
    have hledger : ledger.step (.write i records) = ledger := by
      simp [Ledger.step, hflag, hclosed]
    simp only [hmachine, hledger]
    have hafter : WritesTo n ((w.write records : StateM Machine _).run desk.machine).1.2 :=
      ⟨hhandle ▸ hwrites.file, fun hopen => by rw [hstill] at hopen; cases hopen⟩
    exact ⟨h.tree, h.file, h.readable, h.content, hset hafter, hkeep (hstill.trans hclosed.symm)⟩

theorem Held.close (h : Held path n desk ledger) {i : Nat} (hstep : desk.step path (.close i) = some desk') :
    Held path n desk' (ledger.step (.close i)) := by
  obtain ⟨w, hw, rfl⟩ := Option.map_eq_some_iff.1 hstep
  have hwrites := h.writers w (List.mem_of_getElem? hw)
  refine ⟨h.tree, h.file, h.readable, h.content, fun v hv => ?_, ?_⟩
  · rcases List.mem_or_eq_of_mem_set hv with hv | rfl
    · exact h.writers v hv
    · exact ⟨hwrites.file, fun hopen => by cases hopen⟩
  · simp [Ledger.step, List.map_set, h.isOpen, Writer.close]

/-- **One step keeps the store and the ledger together.** -/
theorem Held.step (h : Held path n desk ledger) {step : Step} (hstep : desk.step path step = some desk') :
    Held path n desk' (ledger.step step) := by
  cases step with
  | start fresh => exact h.start hstep
  | write i records => exact h.write hstep
  | close i => exact h.close hstep

/-- **A whole history keeps the store and the ledger together.** -/
theorem Held.play (steps : List Step) : ∀ {desk : Desk} {ledger : Ledger}, Held path n desk ledger →
    desk.play path steps = some desk' → Held path n desk' (steps.foldl Ledger.step ledger) := by
  induction steps with
  | nil =>
    intro desk ledger h hplay
    cases hplay
    exact h
  | cons step steps ih =>
    intro desk ledger h hplay
    rw [Desk.play, List.foldlM_cons] at hplay
    obtain ⟨next, hstep, hrest⟩ := Option.bind_eq_some_iff.1 hplay
    exact ih (h.step hstep) hrest

end Invariant

/-! ## from the start -/

/-- A path without a store yet: an empty file, or nothing at all and a new file could be read. -/
structure Blank (t : Tree) (path : Text) : Prop where
  tree : t.WellFormed
  empty : (∃ n, t.fileOf? path = some n ∧ t.unreadable.lookup n = none ∧ t.content n = []) ∨
    (t.IsAbsent path ∧ t.unreadable.lookup t.contents.size = none)

/-- The first writer makes the store. -/
theorem held_of_absent {path : Text} {machine : Machine} (hwf : machine.tree.WellFormed)
    (habsent : machine.tree.IsAbsent path) (hnext : machine.tree.unreadable.lookup machine.tree.contents.size = none)
    {fresh : Bool} {desk : Desk} (hstep : Desk.step path { machine } (.start fresh) = some desk) :
    Held path machine.tree.contents.size desk (Ledger.step {} (.start fresh)) := by
  simp only [Desk.step] at hstep
  split at hstep
  · next w after hrun =>
    cases hstep
    obtain ⟨hopened, hopen, hstuck⟩ := openAt_ok hwf hrun
    have hnode : w.handle.node = .file machine.tree.contents.size := hopened.node_of_absent habsent
    refine ⟨hopened.wellFormed hwf, hopened.fileOf? hnode, ?_, ?_, ?_, ?_⟩
    · rw [hopened.extends.unreadable]
      exact hnext
    · rw [hopened.content hwf hnode _ (.inr rfl), if_pos rfl, if_pos (.inr habsent.fileOf?)]
      cases fresh <;> rfl
    · intro w' hw'
      rw [List.mem_singleton.1 hw']
      exact ⟨hnode, fun _ => hstuck⟩
    · simp [Ledger.step, hopen]
  · cases hstep

/-- A history on a blank path holds what its ledger says, once there is a file. -/
theorem held_of_play {path : Text} {machine : Machine} (hblank : Blank machine.tree path) {steps : List Step}
    {desk : Desk} (hplay : Desk.play path { machine } steps = some desk)
    (hfile : steps ≠ [] ∨ (machine.tree.fileOf? path).isSome = true) :
    ∃ n, Held path n desk (Ledger.play steps) := by
  rcases hblank.empty with ⟨n, hn, hread, hcontent⟩ | ⟨habsent, hnext⟩
  · have hheld : Held path n { machine } {} := ⟨hblank.tree, hn, hread, hcontent, by simp, rfl⟩
    exact ⟨n, hheld.play steps hplay⟩
  · cases steps with
    | nil =>
      have hsome := hfile.resolve_left (by simp)
      rw [habsent.fileOf?] at hsome
      cases hsome
    | cons step steps =>
      rw [Desk.play, List.foldlM_cons] at hplay
      obtain ⟨next, hstep, hrest⟩ := Option.bind_eq_some_iff.1 hplay
      cases step with
      | start fresh => exact ⟨_, (held_of_absent hblank.tree habsent hnext hstep).play steps hrest⟩
      | write i records => simp [Desk.step] at hstep
      | close i => simp [Desk.step] at hstep

/-- **The store loses, reorders and corrupts nothing.** After any history of writers of one path that had no store yet,
the records of all writes on open writers since the last fresh one are read back in order, with line feeds for line
ends, and those without a carriage return and a line feed in a row as they are. A write on a closed writer changes
nothing. -/
theorem readRecords_play {path : Text} {machine : Machine} (hblank : Blank machine.tree path) {steps : List Step}
    {desk : Desk} (hplay : Desk.play path { machine } steps = some desk)
    (hfile : steps ≠ [] ∨ (machine.tree.fileOf? path).isSome = true)
    (hstorable : ∀ r ∈ (Ledger.play steps).records, r.Storable) :
    (readRecords path : StateM Machine _).run desk.machine =
        (.ok ((Ledger.play steps).records.map Record.lineFeeds), desk.machine) ∧
      ((∀ r ∈ (Ledger.play steps).records, ∀ s ∈ r.texts, ¬ [Text.cr, Text.lf] <:+: s) →
        (readRecords path : StateM Machine _).run desk.machine =
          (.ok (Ledger.play steps).records, desk.machine)) ∧
      ∀ w ∈ desk.writers, w.closed = true → ∀ records,
        ((w.write records : StateM Machine _).run desk.machine).2 = desk.machine := by
  obtain ⟨n, h⟩ := held_of_play hblank hplay hfile
  have hrun : (Disk.Host.readFile path : StateM Machine _).run desk.machine =
    (desk.machine.tree.readFile path, desk.machine) := rfl
  have hread : (readRecords path : StateM Machine _).run desk.machine =
      (.ok ((Ledger.play steps).records.map Record.lineFeeds), desk.machine) := by
    rw [readRecords, Machine.run_seq, hrun, Tree.readFile_of_fileOf? h.file h.readable, h.content,
      ← recordsOf_writeRows path hstorable]
    rfl
  refine ⟨hread, fun hplain => ?_, fun w _ hclosed records => (write_closed hclosed records desk.machine).1⟩
  have hsame : (Ledger.play steps).records.map Record.lineFeeds = (Ledger.play steps).records := by
    conv_rhs => rw [← List.map_id (Ledger.play steps).records]
    exact List.map_congr_left fun r hr => Record.lineFeeds_eq_self (hplain r hr)
  rw [hread, hsame]

/-- Two writers of a store that is not there yet. The second is fresh, so what the first wrote before is gone; the
first still adds a record after that, and nothing once it is closed. -/
theorem readRecords_play_interleaved :
    let record (note : Text) : Record := { kind := .cast, note, line := Text.minInt64 }
    let steps : List Step :=
      [.start false, .write 0 [record "lost"], .start true, .write 0 [record ("a,\"b\"" ++ [Text.cr, Text.lf])],
       .close 0, .write 0 [record "late"], .write 1 [record " c"]]
    ∃ desk, Desk.play "out/r.csv" { machine := {} } steps = some desk ∧
      (readRecords "out/r.csv" : StateM Machine _).run desk.machine =
        (.ok [record ("a,\"b\"" ++ [Text.lf]), record " c"], desk.machine) := by
  intro record steps
  have hplayed : (Desk.play "out/r.csv" { machine := {} } steps).isSome = true := by decide +kernel
  have habsent : ({} : Tree).locate "out/r.csv" = .error .notFound := by decide +kernel
  have hrecords : (Ledger.play steps).records =
      [record ("a,\"b\"" ++ [Text.cr, Text.lf]), record " c"] := by decide +kernel
  have hfeeds : (Ledger.play steps).records.map Record.lineFeeds =
      [record ("a,\"b\"" ++ [Text.lf]), record " c"] := by decide +kernel
  have hblank : Blank ({} : Machine).tree "out/r.csv" :=
    ⟨Tree.wellFormed_of_nodes (by simp) (by simp), .inr ⟨fun place node h => (by cases habsent.symm.trans h), rfl⟩⟩
  have hstorable : ∀ r ∈ (Ledger.play steps).records, r.Storable := by
    intro r hr
    rw [hrecords] at hr
    rcases List.mem_pair.1 hr with rfl | rfl
    · exact ⟨.head _, by decide⟩
    · exact ⟨.head _, by decide⟩
  obtain ⟨desk, hdesk⟩ := Option.isSome_iff_exists.1 hplayed
  refine ⟨desk, hdesk, ?_⟩
  rw [(readRecords_play hblank hdesk (.inl (by simp [steps])) hstorable).1, hfeeds]

end CastAudit.Store
