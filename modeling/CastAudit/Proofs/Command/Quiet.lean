import CastAudit.Command.Reports
import CastAudit.Command.Scan
import CastAudit.Disk.Machine
import Mathlib.Tactic.Common

/-!
# Programs that change no file

Messages, tables, schemas and database addresses are read and printed; none of that touches the tree.

* `Quiet p` — the program leaves the tree as it is and takes nothing back that was printed;
* `Schema.QuietReader r` — the same for a reader of schemas, whatever library it has at hand;
* `quiet_warnOfDatabase`, `quiet_warnOfViolations` — what a command warns of is found out without a change.
-/

namespace CastAudit

open Disk (Machine)

/-- The program leaves the tree as it is, and what was printed stays. -/
structure Quiet {α : Type} (p : StateM Machine α) : Prop where
  tree : ∀ machine, (p.run machine).2.tree = machine.tree
  printed : ∀ machine, machine.printed <:+ (p.run machine).2.printed

section Programs

variable {α β : Type}

theorem quiet_pure (a : α) : Quiet (pure a) := ⟨fun _ => rfl, fun _ => List.suffix_rfl⟩

theorem Quiet.bind {p : StateM Machine α} {f : α → StateM Machine β} (hp : Quiet p) (hf : ∀ a, Quiet (f a)) :
    Quiet (p >>= f) := by
  have hrun (machine : Machine) : (p >>= f).run machine = (f (p.run machine).1).run (p.run machine).2 := rfl
  constructor <;> intro machine <;> rw [hrun]
  · rw [(hf _).tree, hp.tree]
  · exact (hp.printed machine).trans ((hf _).printed _)

theorem Quiet.tree_eq {p : StateM Machine α} (hp : Quiet p) {machine after : Machine} {a : α}
    (h : p.run machine = (a, after)) : after.tree = machine.tree := by
  have htree := hp.tree machine
  rwa [h] at htree

theorem quiet_readFile (path : Text) : Quiet (Disk.Host.readFile path) :=
  ⟨fun _ => rfl, fun _ => List.suffix_rfl⟩

theorem quiet_inspect (path : Text) : Quiet (Disk.Host.inspect path) :=
  ⟨fun _ => rfl, fun _ => List.suffix_rfl⟩

theorem quiet_listDirectory (path : Text) : Quiet (Disk.Host.listDirectory path) :=
  ⟨fun _ => rfl, fun _ => List.suffix_rfl⟩

theorem quiet_workingDirectory : Quiet Disk.Host.workingDirectory := ⟨fun _ => rfl, fun _ => List.suffix_rfl⟩

theorem quiet_print (text : Text) : Quiet (Disk.Host.print text) := ⟨fun _ => rfl, fun _ => List.suffix_cons ..⟩

theorem quiet_complain (text : Text) : Quiet (Disk.Host.complain text) := ⟨fun _ => rfl, fun _ => List.suffix_rfl⟩

theorem quiet_ite {c : Prop} [Decidable c] {p q : StateM Machine α} (hp : Quiet p) (hq : Quiet q) :
    Quiet (if c then p else q) := by
  split
  · exact hp
  · exact hq

end Programs

/-! ## databases -/

namespace Database

theorem quiet_fileOf (c : Connection) (name : String) : Quiet (fileOf c name) := by
  unfold fileOf
  cases c.value? name with
  | none => exact quiet_pure _
  | some path =>
    refine (quiet_readFile path).bind fun answer => ?_
    cases answer <;> exact quiet_pure _

theorem quiet_connection (environment : Connection) (address : Text) : Quiet (connection environment address) := by
  unfold connection
  cases ofAddress? address with
  | none => exact quiet_pure _
  | some own =>
    simp only
    split
    · exact quiet_pure _
    · exact (quiet_fileOf _ _).bind fun _ => quiet_pure _

theorem quiet_keyFiles (c : Connection) : Quiet (keyFiles c) :=
  (quiet_fileOf c _).bind fun _ => (quiet_fileOf c _).bind fun _ => (quiet_fileOf c _).bind fun _ => quiet_pure _

theorem quiet_isAddress (environment : Connection) (address : Text) : Quiet (isAddress environment address) := by
  refine (quiet_connection environment address).bind fun answer => ?_
  cases answer with
  | none => exact quiet_pure _
  | some c => exact (quiet_keyFiles c).bind fun _ => quiet_pure _

theorem quiet_refusal (environment : Connection) (address : Text) : Quiet (refusal environment address) :=
  (quiet_isAddress environment address).bind fun _ => quiet_ite (quiet_pure _) (quiet_pure _)

end Database

/-! ## schemas -/

namespace Schema

/-- The reader leaves the tree as it is. -/
def QuietReader {α : Type} (r : Reader (StateM Machine) α) : Prop := ∀ library, Quiet (r library)

section Readers

variable {α β : Type}

theorem quietReader_pure (a : α) : QuietReader (pure a) := fun _ => quiet_pure _

theorem quietReader_throw (problem : SchemaProblem) : QuietReader (α := α) (throw problem) := fun _ => quiet_pure _

theorem QuietReader.bind {r : Reader (StateM Machine) α} {f : α → Reader (StateM Machine) β} (hr : QuietReader r)
    (hf : ∀ a, QuietReader (f a)) : QuietReader (r >>= f) := by
  intro library
  have hrest : ∀ answer : Except SchemaProblem (α × Library),
      Quiet (ExceptT.bindCont (fun read => f read.1 read.2) answer : StateM Machine _) := by
    rintro (problem | read)
    · exact quiet_pure _
    · exact hf read.1 read.2
  exact Quiet.bind (hr library) hrest

theorem quietReader_lift {p : StateM Machine (Except SchemaProblem α)} (h : Quiet p) :
    QuietReader (liftM (ExceptT.mk p : ExceptT SchemaProblem (StateM Machine) α)) := by
  intro library
  have hrest : ∀ answer : Except SchemaProblem α,
      Quiet (ExceptT.bindCont (fun a => pure (a, library)) answer : StateM Machine _) := by
    rintro (problem | a)
    · exact quiet_pure _
    · exact quiet_pure _
  exact Quiet.bind h hrest

theorem quietReader_get : QuietReader get := fun _ => quiet_pure _

theorem quietReader_set (library : Library) : QuietReader (set library) := fun _ => quiet_pure _

theorem quietReader_modify (f : Library → Library) : QuietReader (modify f) := fun _ => quiet_pure _

theorem quietReader_mapM {f : α → Reader (StateM Machine) β} (h : ∀ a, QuietReader (f a)) (xs : List α) :
    QuietReader (xs.mapM f) := by
  induction xs with
  | nil =>
    rw [List.mapM_nil]
    exact quietReader_pure _
  | cons x xs ih =>
    rw [List.mapM_cons]
    exact (h x).bind fun _ => ih.bind fun _ => quietReader_pure _

theorem quietReader_need (a? : Option α) : QuietReader (need a?) := by
  cases a? with
  | none => exact quietReader_throw _
  | some a => exact quietReader_pure a

theorem QuietReader.plainly {r : Reader (StateM Machine) α} (h : QuietReader r) : QuietReader (plainly r) :=
  fun library => Quiet.bind (h library) fun _ => quiet_pure _

theorem quietReader_keyword (fields : List (Text × Json)) (name : String) {read : Json → Reader (StateM Machine) α}
    (h : ∀ value, QuietReader (read value)) : QuietReader (keyword fields name read) := by
  unfold keyword
  cases Json.field? fields name with
  | none => exact quietReader_pure _
  | some value => exact (h value).bind fun _ => quietReader_pure _

theorem quietReader_named {read : Text × Json → Reader (StateM Machine) α} (h : ∀ entry, QuietReader (read entry))
    (value : Json) : QuietReader (named read value) := by
  unfold named
  split
  · exact quietReader_mapM h _
  · exact quietReader_throw _

end Readers

section Keywords

variable {read : Json → Reader (StateM Machine) Schema} (h : ∀ value, QuietReader (read value))
include h

theorem quietReader_keywordIf (isKnown : Bool) (fields : List (Text × Json)) (name : String) :
    QuietReader (keywordIf isKnown fields name read) := by
  unfold keywordIf
  split
  · exact quietReader_keyword fields name h
  · exact quietReader_pure _

theorem quietReader_listed (value : Json) : QuietReader (listed read value) := by
  unfold listed
  split
  · exact quietReader_mapM h _
  · exact quietReader_throw _

theorem quietReader_itemSchemas (value : Json) : QuietReader (itemSchemas read value) := by
  unfold itemSchemas
  split
  · exact (quietReader_mapM h _).bind fun _ => quietReader_pure _
  · exact (h _).bind fun _ => quietReader_pure _

theorem quietReader_dependency (entry : Text × Json) : QuietReader (dependency read entry) := by
  unfold dependency
  split
  · exact (quietReader_need _).bind fun _ => quietReader_pure _
  · exact (h _).bind fun _ => quietReader_pure _

theorem quietReader_others (value : Json) : QuietReader (others read value) := by
  unfold others
  split
  · exact quietReader_pure _
  · exact (h _).plainly

theorem quietReader_formed (entry : Text × Json) : QuietReader (formed read entry) :=
  (quietReader_need _).bind fun _ => (h entry.2).plainly.bind fun _ => quietReader_pure _

theorem quietReader_memberConstraints (draft : Draft) (fields : List (Text × Json)) :
    QuietReader (memberConstraints draft read fields) := by
  refine (quietReader_keyword fields _ (quietReader_named fun p => (h p.2).bind fun _ => quietReader_pure _)).bind
    fun _ => ?_
  refine (quietReader_keyword fields _ (quietReader_others h)).bind fun _ => ?_
  refine (quietReader_keyword fields _ (quietReader_named (quietReader_formed h))).bind fun _ => ?_
  refine (quietReader_keywordIf h draft.hasSix fields _).bind fun _ => ?_
  exact (quietReader_keyword fields _ (quietReader_named (quietReader_dependency h))).bind fun _ => quietReader_pure _

theorem quietReader_itemConstraints (fields : List (Text × Json)) : QuietReader (itemConstraints read fields) := by
  refine (quietReader_keyword fields _ (quietReader_itemSchemas h)).bind fun _ => ?_
  exact (quietReader_keyword fields _ (quietReader_others h)).bind fun _ => quietReader_pure _

theorem quietReader_joinConstraints (draft : Draft) (fields : List (Text × Json)) :
    QuietReader (joinConstraints draft read fields) := by
  refine (quietReader_keyword fields _ (quietReader_listed h)).bind fun _ => ?_
  refine (quietReader_keyword fields _ (quietReader_listed h)).bind fun _ => ?_
  refine (quietReader_keyword fields _ (quietReader_listed h)).bind fun _ => ?_
  refine (quietReader_keyword fields _ h).bind fun _ => ?_
  refine (quietReader_keywordIf h draft.hasSeven fields _).bind fun _ => ?_
  refine (quietReader_keywordIf h draft.hasSeven fields _).bind fun _ => ?_
  exact (quietReader_keywordIf h draft.hasSeven fields _).bind fun _ => quietReader_pure _

theorem quietReader_keywords (draft : Draft) (fields : List (Text × Json)) :
    QuietReader (keywords draft read fields) := by
  refine (quietReader_need _).bind fun _ => ?_
  refine (quietReader_memberConstraints h draft fields).bind fun _ => ?_
  refine (quietReader_itemConstraints h fields).bind fun _ => ?_
  refine (quietReader_need _).bind fun _ => ?_
  refine (quietReader_keywordIf h draft.hasSix fields _).bind fun _ => ?_
  exact (quietReader_joinConstraints h draft fields).bind fun _ => quietReader_pure _

end Keywords

section References

variable {load : Loader (StateM Machine)} (hload : ∀ address, Quiet (load address))
include hload

theorem quietReader_loaded (address : Url) : QuietReader (loaded load address) := by
  have hbody : QuietReader (do
      let body ← (ExceptT.mk (load address) : ExceptT SchemaProblem (StateM Machine) Json)
      let admitted := (← get).admitLoaded address body
      set admitted.2
      return admitted.1) :=
    (quietReader_lift (hload address)).bind fun _ =>
      quietReader_get.bind fun _ => (quietReader_set _).bind fun _ => quietReader_pure _
  unfold loaded
  split
  · exact (quietReader_throw _).bind fun _ => hbody
  · exact hbody

theorem quietReader_referent (reference : Url) : QuietReader (referent load reference) := by
  refine quietReader_get.bind fun library => ?_
  split
  · exact quietReader_pure _
  · refine quietReader_get.bind fun library => ?_
    split
    · exact quietReader_get.bind fun _ => (quietReader_need _).bind fun _ =>
        (quietReader_set _).bind fun _ => quietReader_pure _
    · exact (quietReader_loaded hload _).bind fun _ => (quietReader_need _).bind fun _ => quietReader_pure _

theorem quietReader_compile (levels : Nat) : ∀ (draft : Draft) (value : Json),
    QuietReader (compile load levels draft value) := by
  induction levels with
  | zero => exact fun _ _ => quietReader_throw _
  | succ levels ih =>
    intro draft value
    unfold compile
    split
    · split
      · exact quietReader_pure _
      · exact quietReader_throw _
    · refine (quietReader_need _).bind fun _ => ?_
      refine (quietReader_keyword _ _ (quietReader_named fun p => ih draft p.2)).bind fun _ => ?_
      refine (quietReader_need _).bind fun _ => (quietReader_need _).bind fun _ => (quietReader_need _).bind fun ref => ?_
      cases ref with
      | none => exact quietReader_keywords (ih draft) draft _
      | some written =>
        refine (quietReader_need _).bind fun reference => quietReader_get.bind fun library => ?_
        split
        · exact (quietReader_keywords (ih draft) draft _).bind fun _ => quietReader_pure _
        · refine (quietReader_modify _).bind fun _ => (quietReader_referent hload reference).bind fun document => ?_
          exact (ih _ _).bind fun _ => (quietReader_modify _).bind fun _ => quietReader_pure _
    · exact quietReader_throw _

theorem quietReader_ofDocument (body : Json) : QuietReader (ofDocument load body) :=
  (quietReader_need _).bind fun _ => quietReader_compile hload maxLevels _ body

end References

theorem QuietReader.compiled {r : Reader (StateM Machine) Schema} (h : QuietReader r) : Quiet (Reader.compiled r) := by
  refine Quiet.bind (h {}) fun answer => ?_
  cases answer <;> exact quiet_pure _

theorem quiet_absolute (path : Text) : Quiet (absolute path) := by
  unfold absolute
  split
  · exact quiet_pure _
  · refine quiet_workingDirectory.bind fun answer => ?_
    cases answer <;> exact quiet_pure _

theorem quiet_existing (path : Text) : Quiet (existing path) := by
  refine (quiet_absolute path).bind fun answer => ?_
  cases answer with
  | error e => exact quiet_pure _
  | ok whole =>
    refine (quiet_inspect whole).bind fun found => ?_
    cases found <;> exact quiet_pure _

theorem quiet_firstExisting (paths : List Text) : Quiet (firstExisting paths) := by
  induction paths with
  | nil => exact quiet_pure _
  | cons path rest ih =>
    refine (quiet_existing path).bind fun answer => ?_
    cases answer with
    | ok whole => exact quiet_pure _
    | error e => exact ih

theorem quiet_readAddress (address : Url) : Quiet (readAddress address) := by
  unfold readAddress
  cases pathOf? address with
  | none => exact quiet_pure _
  | some path =>
    refine (quiet_readFile path).bind fun answer => ?_
    cases answer <;> exact quiet_pure _

theorem quiet_loadFile (address : Url) : Quiet (loadFile address) := by
  unfold loadFile
  split
  · exact quiet_pure _
  · refine (quiet_readAddress address).bind fun answer => ?_
    cases answer with
    | error problem => exact quiet_pure _
    | ok text =>
      simp only
      split <;> exact quiet_pure _

theorem quiet_ofFile (path : Text) : Quiet (ofFile path) := by
  refine QuietReader.compiled ((quietReader_need _).bind fun address => ?_)
  exact (quietReader_referent quiet_loadFile address).bind fun document => quietReader_ofDocument quiet_loadFile _

theorem quiet_validateDocument (schemaPath : Text) (document : Json) : Quiet (validateDocument schemaPath document) := by
  refine (quiet_existing schemaPath).bind fun answer => ?_
  cases answer with
  | error e => exact quiet_pure _
  | ok whole =>
    refine (quiet_ofFile whole).bind fun compiled => ?_
    cases compiled with
    | error problem => exact quiet_pure _
    | ok c => exact (quiet_pure _).bind fun _ => by split <;> exact quiet_pure _

end Schema

/-! ## messages -/

namespace Command

theorem quiet_detail (verbose : Bool) (line : Text) : Quiet (detail verbose line) :=
  quiet_ite (quiet_print _) (quiet_pure _)

theorem quiet_detailBox (verbose : Bool) (lines : List Text) : Quiet (detailBox verbose lines) :=
  quiet_ite (quiet_print _) (quiet_pure _)

theorem quiet_detailProgress (verbose : Bool) (events : List Progress) : Quiet (detailProgress verbose events) := by
  unfold detailProgress
  induction events with
  | nil => exact quiet_pure _
  | cons e events ih =>
    exact (quiet_detail verbose _).bind fun _ => ih

theorem quiet_warnOfDatabase (results : Results) : Quiet (warnOfDatabase results) := by
  unfold warnOfDatabase
  split
  · exact (Database.quiet_refusal _ _).bind fun _ => quiet_complain _
  · exact quiet_pure _

theorem quiet_warnOfCache (directory : Text) (faults : Nat) : Quiet (warnOfCache directory faults) :=
  quiet_ite (quiet_pure _) (quiet_complain _)

theorem quiet_warnOfViolations (report : Report) : Quiet (warnOfViolations report) := by
  refine (Schema.quiet_firstExisting _).bind fun found => ?_
  cases found with
  | none => exact quiet_pure _
  | some path =>
    refine (Schema.quiet_validateDocument path _).bind fun answer => ?_
    cases answer with
    | ok u => exact quiet_pure _
    | error f => exact quiet_complain _

/-! ## loaders -/

theorem quiet_readRecords (path : Text) : Quiet (Store.readRecords path) := by
  refine (quiet_readFile path).bind fun answer => ?_
  cases answer <;> exact quiet_pure _

theorem quiet_recordsIfAny (path : Text) : Quiet (recordsIfAny path) := by
  unfold recordsIfAny
  split
  · exact quiet_pure _
  · exact (quiet_readRecords path).bind fun _ => quiet_pure _

theorem quiet_readRows (path : Text) : Quiet (Ranking.readRows path) := by
  refine (quiet_readFile path).bind fun answer => ?_
  cases answer <;> exact quiet_pure _

theorem quiet_loadStars (path : Text) : Quiet (Ranking.loadStars path) :=
  (quiet_readRows path).bind fun _ => quiet_pure _

theorem quiet_loadMetadata (path : Text) : Quiet (Ranking.loadMetadata path) :=
  (quiet_readRows path).bind fun _ => quiet_pure _

theorem quiet_countFile (path : Text) : Quiet (Markers.countFile path) := by
  refine (quiet_readFile path).bind fun answer => ?_
  cases answer with
  | error e => exact quiet_ite (quiet_pure _) (quiet_ite (quiet_pure _) (quiet_pure _))
  | ok content =>
    simp only
    split <;> exact quiet_pure _

theorem quiet_countFiles (paths : List Text) : Quiet (Markers.countFiles paths) := by
  induction paths with
  | nil => exact quiet_pure _
  | cons path paths ih =>
    refine (quiet_countFile path).bind fun answer => ?_
    cases answer with
    | error f => exact quiet_pure _
    | ok found => exact ih.bind fun answer => by cases answer <;> exact quiet_pure _

theorem quiet_countListing (listing : Listing) : Quiet (Markers.countListing listing) := by
  have hpackages : Quiet (Markers.countPackages listing) := by
    induction listing with
    | nil => exact quiet_pure _
    | cons entry listing ih =>
      refine (quiet_countFiles entry.logPaths).bind fun answer => ?_
      cases answer with
      | error f => exact quiet_pure _
      | ok counts => exact ih.bind fun answer => by cases answer <;> exact quiet_pure _
  exact hpackages.bind fun _ => quiet_pure _

theorem quiet_load (corpus : Corpus) : Quiet corpus.load := by
  cases corpus with
  | root path logName =>
    refine (quiet_listDirectory path).bind fun answer => ?_
    cases answer <;> exact quiet_pure _
  | listing path =>
    refine (quiet_readFile path).bind fun answer => ?_
    cases answer <;> exact quiet_pure _

end Command

end CastAudit
