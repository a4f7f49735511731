import CastAudit.Proofs.Csv.RoundTrip
import CastAudit.Proofs.Pattern.Frequency
import CastAudit.Proofs.Scan.WellFormed
import CastAudit.Proofs.Store.Records

/-!
# Reading a printed frequency table

A label joins a tag and two types with `:` and `>`, neither of which is escaped, and leaves out the types of a bug. Labels
are therefore not distinct for all patterns. They are for those that a scan finds: no tag holds a `:`, no type found holds
a `>`, and bugs have no types.

* `Pattern.ofLabel?`, `PatternCount.ofRow?` — a label and a row taken apart again;
* `Pattern.Legible` — what a pattern of a scanned record is like, and `ofLabel?_label`: its label tells it;
* `print_frequency_lossless` — the printed table of any scanned logs is read back.
-/

namespace CastAudit

/-! ## labels -/

theorem Kind.colon_not_mem_tag : ∀ kind ∈ recognized, 0x3a ∉ kind.tag := by decide

namespace Pattern

/-- The pattern with a label: a tag alone, or a tag and two types behind the first `:`, cut at the first `>`. -/
def ofLabel? (label : Text) : Option Pattern :=
  match Text.cut? label ":" with
  | none => (Kind.ofTag? label).map fun kind => { kind }
  | some (tag, types) => do
    let kind ← Kind.ofTag? tag
    let (fromType, toType) ← Text.cut? types ">"
    return ⟨kind, fromType, toType⟩

/-- A pattern as a scan finds them. -/
structure Legible (p : Pattern) : Prop where
  kind : p.kind ∈ Kind.recognized
  fromType : 0x3e ∉ p.fromType
  untyped : p.kind.isConversion = false → p.fromType = [] ∧ p.toType = []
  oneLine : Text.lf ∉ p.fromType ∧ Text.lf ∉ p.toType

variable {p q : Pattern}

theorem colon_eq : (":" : Text) = [0x3a] := by decide

theorem label_of_conversion (h : p.kind.isConversion = true) :
    p.label = p.kind.tag ++ 0x3a :: (p.fromType ++ 0x3e :: p.toType) := by
  rw [label, if_pos h, colon_eq, Header.angle_eq]
  simp

theorem label_of_not_conversion (h : p.kind.isConversion = false) : p.label = p.kind.tag := by
  rw [label, h]
  rfl

/-- **A label tells its pattern.** -/
theorem ofLabel?_label (h : p.Legible) : ofLabel? p.label = some p := by
  have htag := Kind.colon_not_mem_tag p.kind h.kind
  have hkind := Kind.ofTag?_tag h.kind
  unfold ofLabel?
  cases hconversion : p.kind.isConversion with
  | true =>
    rw [label_of_conversion hconversion, colon_eq, Text.cut?_append_byte htag]
    simp only [hkind, Header.angle_eq, Text.cut?_append_byte h.fromType]
    rfl
  | false =>
    rw [label_of_not_conversion hconversion, colon_eq, Text.cut?_of_not_mem htag]
    simp only [hkind, Option.map_some]
    obtain ⟨kind, fromType, toType⟩ := p
    obtain ⟨rfl, rfl⟩ := h.untyped hconversion
    rfl

theorem label_inj (hp : p.Legible) (hq : q.Legible) (h : p.label = q.label) : p = q := by
  have hsome : some p = some q := by rw [← ofLabel?_label hp, h, ofLabel?_label hq]
  exact Option.some.inj hsome

theorem Legible.lf_not_mem_label (h : p.Legible) : Text.lf ∉ p.label := by
  have htag := Kind.tag_no_lf h.kind
  obtain ⟨hfrom, hto⟩ := h.oneLine
  cases hconversion : p.kind.isConversion with
  | true =>
    have hcolon : Text.lf ≠ 0x3a := by decide
    have hangle : Text.lf ≠ 0x3e := by decide
    rw [label_of_conversion hconversion]
    simp [htag, hfrom, hto, hcolon, hangle]
  | false =>
    rw [label_of_not_conversion hconversion]
    exact htag

theorem legible_of_mem_records {src : Scan.Source} {content : Text} {r : Record}
    (hr : r ∈ (Scan.ofContent src content).1.records) : r.pattern.Legible := by
  have hwell := Scan.wellFormed_of_mem_records hr
  have hbug : ∀ kind ∈ Kind.recognized, kind.isConversion = false → kind.isBug = true := by decide
  have huntyped : r.kind.isConversion = false → r.fromType = [] ∧ r.toType = [] := by
    intro hother
    obtain ⟨hfrom, hto, -⟩ := hwell.bug (hbug r.kind hwell.kind_recognized hother)
    exact ⟨hfrom, hto⟩
  have hangle : 0x3e ∉ r.fromType := by
    cases hconversion : r.kind.isConversion with
    | true => exact (hwell.conversion hconversion).2.1
    | false =>
      rw [(huntyped hconversion).1]
      exact List.not_mem_nil
  have hfrom := (hwell.texts r.fromType (by simp)).oneLine
  have hto := (hwell.texts r.toType (by simp)).oneLine
  exact ⟨hwell.kind_recognized, hangle, huntyped, hfrom, hto⟩

end Pattern

/-! ## tables -/

namespace PatternCount

/-- The fields of a printed row. -/
def row (c : PatternCount) : List Text := [c.pattern.label, Text.ofInt c.count]

/-- The pattern and count of a row of two fields. -/
def ofRow? : List Text → Option PatternCount
  | [label, count] => do
    let pattern ← Pattern.ofLabel? label
    if Text.isDigits count then return ⟨pattern, Text.digitsValue count⟩ else none
  | _ => none

theorem ofRow?_row {c : PatternCount} (hpattern : c.pattern.Legible) (hcount : 0 ≤ c.count) :
    ofRow? c.row = some c := by
  have hdigits : Text.ofInt c.count = Text.ofNat c.count.natAbs := by
    rw [Text.ofInt, if_neg (by omega)]
  have habs : (c.count.natAbs : Int) = c.count := by omega
  simp only [row, ofRow?, Pattern.ofLabel?_label hpattern, hdigits, Text.isDigits_ofNat, Text.digitsValue_ofNat, habs]
  rfl

theorem mapM_ofRow?_row {counts : List PatternCount} (h : ∀ c ∈ counts, c.pattern.Legible ∧ 0 ≤ c.count) :
    (counts.map row).mapM ofRow? = some counts := by
  induction counts with
  | nil => rfl
  | cons c counts ih =>
    rw [List.forall_mem_cons] at h
    rw [List.map_cons, List.mapM_cons, ofRow?_row h.1.1 h.1.2, ih h.2]
    rfl

theorem lineFeeds_row {c : PatternCount} (h : c.pattern.Legible) : c.row.map Csv.lineFeeds = c.row := by
  have hlabel := Csv.lineFeeds_of_not_mem h.lf_not_mem_label
  have hcount := Csv.lineFeeds_of_not_mem (Text.not_mem_ofInt (c := Text.lf) (by decide) (by decide) c.count)
  simp [row, hlabel, hcount]

theorem read_print {counts : List PatternCount} (h : ∀ c ∈ counts, c.pattern.Legible) :
    (Csv.readUniform (print counts)).error = none ∧
      (Csv.readUniform (print counts)).rows.map (·.map Csv.Field.text) = counts.map row := by
  have hlength : ∀ fields ∈ counts.map row, fields.length = 2 := by
    intro fields hfields
    obtain ⟨c, -, rfl⟩ := List.mem_map.1 hfields
    rfl
  obtain ⟨herror, hrows⟩ := Csv.readUniform_writeRows (Nat.le_refl 2) hlength
  refine ⟨herror, hrows.trans ?_⟩
  rw [List.map_map]
  exact List.map_congr_left fun c hc => lineFeeds_row (h c hc)

end PatternCount

/-- **The printed frequency table of scanned logs is lossless.** Read back with as many fields in every row as in the
first, it has one row for each count, no two rows have the same label, and each row gives back its count; no two patterns
that were found are printed alike. -/
theorem Pattern.print_frequency_lossless (logs : List (Scan.Source × Text)) :
    let records := logs.flatMap fun log => (Scan.ofContent log.1 log.2).1.records
    let counts := frequency records
    let reading := Csv.readUniform (PatternCount.print counts)
    let rows := reading.rows.map (·.map Csv.Field.text)
    reading.error = none ∧ rows.length = counts.length ∧ (rows.map List.head?).Nodup ∧
      rows.mapM PatternCount.ofRow? = some counts ∧
      ∀ r ∈ records, ∀ r' ∈ records, r.pattern.label = r'.pattern.label → r.pattern = r'.pattern := by
  intro records counts reading rows
  have hfound : ∀ r ∈ records, r.pattern.Legible := by
    intro r hr
    obtain ⟨log, -, hlog⟩ := List.mem_flatMap.1 hr
    exact legible_of_mem_records hlog
  have hcounts : ∀ c ∈ counts, c.pattern.Legible ∧ 0 ≤ c.count := by
    intro c hc
    obtain ⟨hpattern, hcount⟩ := mem_frequency hc
    obtain ⟨r, hr, heq⟩ := List.mem_map.1 hpattern
    exact ⟨heq ▸ hfound r hr, by omega⟩
  obtain ⟨herror, hrows⟩ := PatternCount.read_print fun c hc => (hcounts c hc).1
  have hlabels : (counts.map fun c => c.row.head?).Nodup := by
    refine List.Nodup.map_on ?_ (tells_frequency records).nodup
    intro c hc d hd heq
    have hlabel : c.pattern.label = d.pattern.label := Option.some.inj heq
    have hpattern := label_inj (hcounts c hc).1 (hcounts d hd).1 hlabel
    exact List.inj_on_of_nodup_map (tells_frequency records).nodup_patterns hc hd hpattern
  refine ⟨herror, ?_, ?_, ?_, ?_⟩
  · rw [show rows = counts.map PatternCount.row from hrows, List.length_map]
  · rw [show rows = counts.map PatternCount.row from hrows, List.map_map]
    exact hlabels
  · rw [show rows = counts.map PatternCount.row from hrows]
    exact PatternCount.mapM_ofRow?_row hcounts
  · intro r hr r' hr' hlabel
    exact label_inj (hfound r hr) (hfound r' hr') hlabel

/-- Types with a colon, a comma, a quote and a carriage return, found twice, beside others whose label differs in the
place of the `>` alone. -/
theorem Pattern.print_frequency_lossless_punctuation :
    let logs : List (Scan.Source × Text) :=
      [(⟨"a-1.0.0", "a.log", []⟩, Text.unlines ["warning: Here is cast(f > a:b > c,\"d\re => mut > n)", "--> a.rs:1:1"]),
        (⟨"b-1.0.0", "b.log", [.cast]⟩, Text.unlines ["warning: Here is cast(g > a:b > c,\"d\re => const > m)",
          "--> b.rs:2:2", "warning: Here is cast(g > a > b:c,\"d\re => const > m)", "--> b.rs:3:3"])]
    let records := logs.flatMap fun log => (Scan.ofContent log.1 log.2).1.records
    let r : Record :=
      { kind := .cast, packageId := "a-1.0.0", caller := "f", fromType := "a:b", toType := "c,\"d\re",
        mutability := "mut", note := "n", location := "a.rs:1:1", logPath := "a.log", line := 1 }
    let r' : Record :=
      { kind := .cast, packageId := "b-1.0.0", caller := "g", fromType := "a:b", toType := "c,\"d\re",
        mutability := "const", note := "m", location := "b.rs:2:2", logPath := "b.log", line := 1 }
    let other : Record := { r' with fromType := "a", toType := "b:c,\"d\re", location := "b.rs:3:3", line := 3 }
    records = [r, r', other] ∧ r.pattern ≠ other.pattern ∧ r ∈ records ∧ r' ∈ records ∧
      r.pattern.label = r'.pattern.label ∧ r.pattern = r'.pattern ∧
      ((Csv.readUniform (PatternCount.print (frequency records))).rows.map (·.map Csv.Field.text)).mapM
        PatternCount.ofRow? = some (frequency records) := by
  intro logs records r r' other
  have hrecords : records = [r, r', other] := by decide +kernel
  have hr : r ∈ records := by simp [hrecords]
  have hr' : r' ∈ records := by simp [hrecords]
  have hlabel : r.pattern.label = r'.pattern.label := by decide +kernel
  obtain ⟨-, -, -, hback, hinj⟩ := print_frequency_lossless logs
  exact ⟨hrecords, by decide +kernel, hr, hr', hlabel, hinj r hr r' hr' hlabel, hback⟩

end CastAudit
