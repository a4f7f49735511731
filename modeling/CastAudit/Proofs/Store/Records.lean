import CastAudit.Proofs.Csv.RoundTrip
import CastAudit.Proofs.Text.Numbers
import CastAudit.Store.Records

/-!
# Records in rows

* `Record.Storable` — the record has one of the five kinds and a line number of 64 bits;
* `Record.lineFeeds` — the record with line feeds for the line ends in its texts;
* `recordsOf_writeRows` — storable records are read back from their rows, with line feeds for line ends.
-/

namespace CastAudit

namespace Record

/-- A record that the store can hold. -/
structure Storable (r : Record) : Prop where
  kind : r.kind ∈ Kind.recognized
  line : Text.minInt64 ≤ r.line ∧ r.line ≤ Text.maxInt64

/-- The texts of a record. -/
def texts (r : Record) : List Text :=
  [r.packageId, r.caller, r.fromType, r.toType, r.mutability, r.note, r.location, r.logPath]

/-- The record with line feeds for the line ends in its texts. -/
def lineFeeds (r : Record) : Record where
  kind := r.kind
  packageId := Csv.lineFeeds r.packageId
  caller := Csv.lineFeeds r.caller
  fromType := Csv.lineFeeds r.fromType
  toType := Csv.lineFeeds r.toType
  mutability := Csv.lineFeeds r.mutability
  note := Csv.lineFeeds r.note
  location := Csv.lineFeeds r.location
  logPath := Csv.lineFeeds r.logPath
  line := r.line

theorem lineFeeds_eq_self {r : Record} (h : ∀ s ∈ r.texts, ¬ [Text.cr, Text.lf] <:+: s) : r.lineFeeds = r := by
  have hsame : ∀ s ∈ r.texts, Csv.lineFeeds s = s := fun s hs => Csv.lineFeeds_of_no_pair (h s hs)
  simp only [texts, List.forall_mem_cons] at hsame
  obtain ⟨hpackage, hcaller, hfrom, hto, hmut, hnote, hlocation, hlog, -⟩ := hsame
  simp only [lineFeeds, hpackage, hcaller, hfrom, hto, hmut, hnote, hlocation, hlog]

end Record

namespace Kind

theorem ofTag?_tag {kind : Kind} (h : kind ∈ recognized) : ofTag? kind.tag = some kind := by
  revert kind
  decide +kernel

theorem tag_no_lf {kind : Kind} (h : kind ∈ recognized) : Text.lf ∉ kind.tag := by
  revert kind
  decide +kernel

end Kind

namespace Store

theorem lineOf_ofInt {i : Int} (h : Text.minInt64 ≤ i ∧ i ≤ Text.maxInt64) : lineOf (Text.ofInt i) = i := by
  rw [lineOf, Text.readStoredInt_ofInt h.1 h.2]

/-- The row of a record with line feeds for line ends; its tag and its number have none. -/
theorem rowOf_lineFeeds {r : Record} (h : r.Storable) : (rowOf r).map Csv.lineFeeds = rowOf r.lineFeeds := by
  have htag : Csv.lineFeeds r.kind.tag = r.kind.tag := Csv.lineFeeds_of_not_mem (Kind.tag_no_lf h.kind)
  have hline : Csv.lineFeeds (Text.ofInt r.line) = Text.ofInt r.line :=
    Csv.lineFeeds_of_not_mem (Text.not_mem_ofInt (by decide) (by decide) r.line)
  simp [rowOf, Record.lineFeeds, htag, hline]

/-- A row with the texts of a storable record gives the record, wherever its fields stand. -/
theorem ofRow_of_texts (path : Text) {r : Record} (h : r.Storable) {row : Csv.Row}
    (hrow : row.map Csv.Field.text = rowOf r) : ofRow path row = .ok r := by
  obtain ⟨f₁, f₂, f₃, f₄, f₅, f₆, f₇, f₈, f₉, f₁₀, rfl⟩ :
      ∃ f₁ f₂ f₃ f₄ f₅ f₆ f₇ f₈ f₉ f₁₀, row = [f₁, f₂, f₃, f₄, f₅, f₆, f₇, f₈, f₉, f₁₀] := by
    have hlength : row.length = 10 := by simpa [rowOf] using congrArg List.length hrow
    match row, hlength with
    | [f₁, f₂, f₃, f₄, f₅, f₆, f₇, f₈, f₉, f₁₀], _ => exact ⟨f₁, f₂, f₃, f₄, f₅, f₆, f₇, f₈, f₉, f₁₀, rfl⟩
  simp only [rowOf, List.map_cons, List.map_nil, List.cons.injEq, and_true] at hrow
  obtain ⟨h₁, h₂, h₃, h₄, h₅, h₆, h₇, h₈, h₉, h₁₀⟩ := hrow
  simp only [ofRow, h₁, h₂, h₃, h₄, h₅, h₆, h₇, h₈, h₉, h₁₀, Kind.ofTag?_tag h.kind, lineOf_ofInt h.line]

theorem mapM_ofRow (path : Text) {records : List Record} (h : ∀ r ∈ records, r.Storable) : ∀ {rows : List Csv.Row},
    rows.map (·.map Csv.Field.text) = records.map rowOf → rows.mapM (ofRow path) = .ok records := by
  induction records with
  | nil =>
    intro rows hrows
    rw [List.map_nil, List.map_eq_nil_iff] at hrows
    rw [hrows]
    rfl
  | cons r records ih =>
    intro rows hrows
    rw [List.forall_mem_cons] at h
    obtain ⟨row, rest, rfl, hrow, hrest⟩ := List.map_eq_cons_iff.1 hrows
    rw [List.mapM_cons, ofRow_of_texts path h.1 hrow, ih h.2 hrest]
    rfl

/-- **Storable records are read back from their rows**, with line feeds for line ends. -/
theorem recordsOf_writeRows (path : Text) {records : List Record} (h : ∀ r ∈ records, r.Storable) :
    recordsOf path (Csv.writeRows (records.map rowOf)) = .ok (records.map Record.lineFeeds) := by
  have hlength : ∀ row ∈ records.map rowOf, row.length = fieldCount := by
    intro row hrow
    obtain ⟨r, -, rfl⟩ := List.mem_map.1 hrow
    rfl
  obtain ⟨herror, hrows⟩ := Csv.read_writeRows (by decide) hlength
  have htexts : (records.map rowOf).map (·.map Csv.lineFeeds) = (records.map Record.lineFeeds).map rowOf := by
    rw [List.map_map, List.map_map]
    exact List.map_congr_left fun r hr => rowOf_lineFeeds (h r hr)
  have hstorable : ∀ r ∈ records.map Record.lineFeeds, r.Storable := by
    intro r hr
    obtain ⟨r', hr', rfl⟩ := List.mem_map.1 hr
    exact ⟨(h r' hr').kind, (h r' hr').line⟩
  have hread := mapM_ofRow path hstorable (hrows.trans htexts)
  simp only [recordsOf, hread, herror]
  rfl

end Store

end CastAudit
