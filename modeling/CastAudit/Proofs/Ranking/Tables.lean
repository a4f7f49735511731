import CastAudit.Proofs.Csv.Lines
import CastAudit.Proofs.Disk.Opening
import CastAudit.Proofs.Ranking.Keys

/-!
# Malformed lines in a table

What a line with quotes in it does to the lines around it.

* `starsOn lines`, `metadataOn lines` — the tables of a file with some lines, and `run_loadStars`, `run_loadMetadata` —
  they are what is loaded;
* `RunsOn line` — the line leaves a quote open, so that its row goes on behind it;
* `Apart above line below` — the rows of a line and of the lines around it do not touch each other;
* `rowsOf_closed`, `rowsOf_open` — the rows of a file around a line that closes its quotes, and around one that takes
  everything below it into its last field;
* `load_around_line` — so exactly the lines that run on do not stand apart.
-/

namespace CastAudit.Ranking

open Disk (Machine)

/-! ## files -/

/-- The star table of a file with some lines. -/
def starsOn (lines : List Text) : StarTable := starTable (rowsOf (Text.unlines lines))

/-- The metadata of a file with some lines. -/
def metadataOn (lines : List Text) : List Metadata := metadataTable (rowsOf (Text.unlines lines))

section Files

variable {machine : Machine} {path : Text} {content : Text} (hread : machine.tree.readFile path = .ok content)
include hread

theorem run_readRows : (readRows path : StateM Machine _).run machine = (.ok (rowsOf content), machine) := by
  have hfile : (Disk.Host.readFile path : StateM Machine _).run machine = (machine.tree.readFile path, machine) := rfl
  rw [readRows, Machine.run_seq, hfile, hread]
  rfl

theorem run_loadStars : (loadStars path : StateM Machine _).run machine = (.ok (starTable (rowsOf content)), machine) := by
  rw [loadStars, Machine.run_seq, run_readRows hread]
  rfl

theorem run_loadMetadata :
    (loadMetadata path : StateM Machine _).run machine = (.ok (metadataTable (rowsOf content)), machine) := by
  rw [loadMetadata, Machine.run_seq, run_readRows hread]
  rfl

end Files

/-! ## lines -/

/-- The rows below count before those above. -/
theorem lookup_starTable_append (rows rows' : List (List Text)) (key : Text) :
    (starTable (rows ++ rows')).lookup key = ((starTable rows').lookup key).or ((starTable rows).lookup key) := by
  rw [lookup_starTable, lookup_starTable, lookup_starTable, List.filterMap_append, List.reverse_append,
    List.lookup_append]

/-- Lines without quotes. -/
def PlainLines (lines : List Text) : Prop := ∀ line ∈ lines, Text.lf ∉ line ∧ Text.quote ∉ line
deriving Decidable

/-- The line leaves a quote open: a field of its row holds the line feed behind it. -/
def RunsOn (line : Text) : Prop := ∃ row ∈ rowsOf (Text.unlines [line]), ∃ field ∈ row, Text.lf ∈ field
deriving Decidable

/-- A line and the lines around it do not touch each other: without its own keys the star table is that of the other
lines, and the metadata are those of the parts. -/
structure Apart (above : List Text) (line : Text) (below : List Text) : Prop where
  stars : ∀ key, (starsOn [line]).lookup key = none →
    (starsOn (above ++ line :: below)).lookup key = (starsOn (above ++ below)).lookup key
  metadata : metadataOn (above ++ line :: below) = metadataOn above ++ metadataOn [line] ++ metadataOn below

theorem tolerant_dialect : dialect.Tolerant := ⟨rfl, rfl, by decide⟩

theorem PlainLines.append {lines lines' : List Text} (h : PlainLines lines) (h' : PlainLines lines') :
    PlainLines (lines ++ lines') := List.forall_mem_append.2 ⟨h, h'⟩

theorem PlainLines.closed {lines : List Text} (h : PlainLines lines) :
    ∀ line ∈ lines, ¬ Csv.LeavesOpen dialect line :=
  fun line hline => Csv.not_leavesOpen_of_not_mem dialect (h line hline).2

theorem PlainLines.no_lf {lines : List Text} (h : PlainLines lines) : ∀ line ∈ lines, Text.lf ∉ line :=
  fun line hline => (h line hline).1

/-- The rows of lines that close their quotes are those of the single lines. -/
theorem rowsOf_unlines {lines : List Text} (hlf : ∀ line ∈ lines, Text.lf ∉ line)
    (hclosed : ∀ line ∈ lines, ¬ Csv.LeavesOpen dialect line) :
    rowsOf (Text.unlines lines) = lines.flatMap (Csv.lineRows dialect) :=
  Csv.read_unlines tolerant_dialect hlf hclosed

section Line

variable {line : Text} (hline : Text.lf ∉ line)
include hline

/-- **A line that leaves a quote open** takes everything below it into its last field. -/
theorem rowsOf_open (hopen : Csv.LeavesOpen dialect line) :
    ∃ fields last, rowsOf (Text.unlines [line]) = [fields ++ [last]] ∧ Text.lf ∈ last ∧
      ∀ above below : List Text, PlainLines above → PlainLines below →
        rowsOf (Text.unlines (above ++ line :: below)) =
          rowsOf (Text.unlines above) ++ [fields ++ [last ++ Text.unlines (below.map Lines.dropReturn)]] := by
  let fields := (Csv.lineEnd dialect line).fields.reverse
  let last := (Csv.lineEnd dialect line).field.reverse ++ [Text.lf]
  have hrows : ∀ above below : List Text, PlainLines above → PlainLines below →
      rowsOf (Text.unlines (above ++ line :: below)) =
        rowsOf (Text.unlines above) ++ [fields ++ [last ++ Text.unlines (below.map Lines.dropReturn)]] := by
    intro above below habove hbelow
    have hlf : ∀ other ∈ above ++ line :: below, Text.lf ∉ other := by
      rw [List.forall_mem_append, List.forall_mem_cons]
      exact ⟨habove.no_lf, hline, hbelow.no_lf⟩
    have hread := Csv.read_unlines_open tolerant_dialect hlf habove.closed hopen fun other hother =>
      (hbelow other hother).2
    rw [rowsOf_unlines habove.no_lf habove.closed, List.append_assoc, List.singleton_append]
    exact hread
  refine ⟨fields, last, ?_, by simp [last], hrows⟩
  have halone := hrows [] [] nofun nofun
  rwa [List.map_nil, show Text.unlines [] = [] from rfl, List.append_nil] at halone

theorem runsOn_iff : RunsOn line ↔ Csv.LeavesOpen dialect line := by
  constructor
  · intro hruns
    by_contra hclosed
    obtain ⟨row, hrow, field, hfield, hlf⟩ := hruns
    rw [rowsOf_unlines (List.forall_mem_singleton.2 hline) (List.forall_mem_singleton.2 hclosed),
      List.flatMap_singleton] at hrow
    exact Csv.no_lf_lineRows dialect hline row hrow field hfield hlf
  · intro hopen
    obtain ⟨fields, last, halone, hlf, -⟩ := rowsOf_open hline hopen
    exact ⟨fields ++ [last], by rw [halone, List.mem_singleton], last, by simp, hlf⟩

/-- The rows of a file are those of its parts around a line that does not run on. -/
theorem rowsOf_closed (hclosed : ¬ RunsOn line) {above below : List Text} (habove : PlainLines above)
    (hbelow : PlainLines below) :
    rowsOf (Text.unlines (above ++ line :: below)) =
      rowsOf (Text.unlines above) ++ rowsOf (Text.unlines [line]) ++ rowsOf (Text.unlines below) := by
  rw [runsOn_iff hline] at hclosed
  have hwhole : rowsOf (Text.unlines (above ++ line :: below)) =
      (above ++ line :: below).flatMap (Csv.lineRows dialect) := by
    refine rowsOf_unlines ?_ ?_
    · rw [List.forall_mem_append, List.forall_mem_cons]
      exact ⟨habove.no_lf, hline, hbelow.no_lf⟩
    · rw [List.forall_mem_append, List.forall_mem_cons]
      exact ⟨habove.closed, hclosed, hbelow.closed⟩
  rw [hwhole, rowsOf_unlines habove.no_lf habove.closed, rowsOf_unlines hbelow.no_lf hbelow.closed,
    rowsOf_unlines (List.forall_mem_singleton.2 hline) (List.forall_mem_singleton.2 hclosed), List.flatMap_append,
    List.flatMap_cons, List.flatMap_singleton, List.append_assoc]

/-- **A line that does not run on stands apart.** -/
theorem apart_of_closed (hclosed : ¬ RunsOn line) {above below : List Text} (habove : PlainLines above)
    (hbelow : PlainLines below) : Apart above line below where
  stars := by
    intro key hkey
    have hboth : rowsOf (Text.unlines (above ++ below)) = rowsOf (Text.unlines above) ++ rowsOf (Text.unlines below) := by
      rw [rowsOf_unlines (habove.append hbelow).no_lf (habove.append hbelow).closed, List.flatMap_append,
        rowsOf_unlines habove.no_lf habove.closed, rowsOf_unlines hbelow.no_lf hbelow.closed]
    unfold starsOn at hkey ⊢
    rw [rowsOf_closed hline hclosed habove hbelow, hboth, lookup_starTable_append, lookup_starTable_append, hkey,
      Option.none_or, lookup_starTable_append]
  metadata := by
    unfold metadataOn
    rw [rowsOf_closed hline hclosed habove hbelow, metadataTable, List.filterMap_append, List.filterMap_append,
      metadataTable, metadataTable, metadataTable]

/-- Two equal rows below a line that runs on are lost: what the line leaves is one row at most. -/
theorem not_apart_of_runsOn (hruns : RunsOn line) : ∃ below, PlainLines below ∧ ¬ Apart [] line below := by
  let below : List Text := ["p,1,o/r", "p,1,o/r"]
  have hplain : PlainLines below := by decide
  refine ⟨below, hplain, fun hapart => ?_⟩
  obtain ⟨fields, last, -, -, hrows⟩ := rowsOf_open hline ((runsOn_iff hline).1 hruns)
  have hone : (metadataOn ([] ++ line :: below)).length ≤ 1 := by
    rw [metadataOn, hrows [] below nofun hplain]
    exact List.length_filterMap_le ..
  have htwo : (metadataOn below).length = 2 := by decide +kernel
  rw [hapart.metadata, List.length_append, htwo] at hone
  omega

end Line

/-- **What is loaded around a line**: a file gives the tables of its lines, and a line stands apart from all lines without
quotes around it exactly if it does not run on. One that does run on leaves the rows above it alone, but takes
everything below it into its last field. -/
theorem load_around_line {line : Text} (hline : Text.lf ∉ line) :
    (∀ (machine : Machine) (path : Text) (lines : List Text), machine.tree.readFile path = .ok (Text.unlines lines) →
      (loadStars path : StateM Machine _).run machine = (.ok (starsOn lines), machine) ∧
      (loadMetadata path : StateM Machine _).run machine = (.ok (metadataOn lines), machine)) ∧
    ((∀ above below, PlainLines above → PlainLines below → Apart above line below) ↔ ¬ RunsOn line) ∧
    (RunsOn line → ∃ fields last, rowsOf (Text.unlines [line]) = [fields ++ [last]] ∧
      ∀ above below, PlainLines above → PlainLines below →
        rowsOf (Text.unlines (above ++ line :: below)) =
          rowsOf (Text.unlines above) ++ [fields ++ [last ++ Text.unlines (below.map Lines.dropReturn)]]) := by
  refine ⟨fun machine path lines hread => ⟨run_loadStars hread, run_loadMetadata hread⟩, ⟨?_, ?_⟩, ?_⟩
  · intro hall hruns
    obtain ⟨below, hplain, hnot⟩ := not_apart_of_runsOn hline hruns
    exact hnot (hall [] below nofun hplain)
  · exact fun hclosed above below habove hbelow => apart_of_closed hline hclosed habove hbelow
  · intro hruns
    obtain ⟨fields, last, halone, -, hrows⟩ := rowsOf_open hline ((runsOn_iff hline).1 hruns)
    exact ⟨fields, last, halone, hrows⟩

/-- A stray quote between two rows does no harm, one at the start of a field takes the row below. -/
theorem load_around_line_stray :
    let lines : List Text := ["a/b,1", "o\"x/r,7", "c/d,5"]
    let machine : Machine := { tree := { nodes := [(["t"], .file 0)], contents := #[Text.unlines lines] } }
    ((loadStars "t" : StateM Machine _).run machine).1 = .ok (starsOn lines) ∧
      Apart ["a/b,1"] "o\"x/r,7" ["c/d,5"] ∧
      ∃ fields last, rowsOf (Text.unlines ["o/r,\"7"]) = [fields ++ [last]] ∧
        rowsOf (Text.unlines ["a/b,1", "o/r,\"7", "c/d,5\r"]) =
          rowsOf (Text.unlines ["a/b,1"]) ++ [fields ++ [last ++ Text.unlines ["c/d,5"]]] := by
  intro lines machine
  have hread : machine.tree.readFile "t" = .ok (Text.unlines lines) := by rfl
  have hclosed : ¬ RunsOn "o\"x/r,7" := by decide +kernel
  have hruns : RunsOn "o/r,\"7" := by decide +kernel
  have hline : Text.lf ∉ ("o\"x/r,7" : Text) := by decide
  have hopen : Text.lf ∉ ("o/r,\"7" : Text) := by decide
  obtain ⟨hload, hapart, -⟩ := load_around_line hline
  obtain ⟨fields, last, halone, hrows⟩ := (load_around_line hopen).2.2 hruns
  refine ⟨congrArg Prod.fst (hload machine "t" lines hread).1, ?_, fields, last, halone, ?_⟩
  · exact hapart.2 hclosed ["a/b,1"] ["c/d,5"] (by decide) (by decide)
  · exact hrows ["a/b,1"] ["c/d,5\r"] (by decide) (by decide)

/-- A quote at the start of a line takes the row below it. -/
theorem swallowed_row : ¬ ∀ (above : List Text) (line : Text) (below : List Text), PlainLines above → PlainLines below →
    Text.lf ∉ line → Apart above line below := by
  intro h
  have hapart := h [] "\"x" ["a/b,5"] nofun (by decide) (by decide)
  have hlost := hapart.stars "a/b" (by decide +kernel)
  exact absurd hlost (by decide +kernel)

end CastAudit.Ranking
