import CastAudit.Proofs.Scan.Fields

/-!
# The package of a scan is a label

A scan looks at the lines of a log. The package that the log belongs to only stands in what is found.

* `ofContent_inPackage` — the scan of a log for another package is the same but for the label;
* `nodup_positions` — a scan has at most one record for a line.
-/

namespace CastAudit

/-- The record of a log in another package. -/
def Record.inPackage (id : Text) (r : Record) : Record := { r with packageId := id }

/-- The failure of a log in another package. -/
def Failure.inPackage (id : Text) (f : Failure) : Failure := { f with packageId := id }

/-- Where a finding was made: its log and the line of its header. -/
def Record.position (r : Record) : Text × Int := (r.logPath, r.line)

namespace Scan

/-- The same log in another package. -/
def Source.inPackage (id : Text) (src : Source) : Source := { src with packageId := id }

/-- The same state for a log in another package. -/
def State.inPackage (id : Text) (st : State) : State :=
  { st with
    records := st.records.map (Record.inPackage id)
    failures := st.failures.map (Failure.inPackage id)
    pending := st.pending.map (Record.inPackage id) }

/-- The same scan for a log in another package. -/
def inPackage (id : Text) (scan : Scan) : Scan :=
  { scan with
    packageId := id
    records := scan.records.map (Record.inPackage id)
    failures := scan.failures.map (Failure.inPackage id) }

section Labels

variable (id : Text) (src : Source) (st : State)

theorem header_inPackage (line : Text) (kind : Kind) :
    header (src.inPackage id) (st.inPackage id) line kind = (header src st line kind).inPackage id := by
  unfold header
  split <;> rfl

theorem continuation_inPackage (line : Text) (r : Record) :
    continuation (src.inPackage id) (st.inPackage id) line (r.inPackage id) =
      (continuation src st line r).inPackage id := by
  rw [continuation_eq, continuation_eq]
  have hkind : (r.inPackage id).kind = r.kind := rfl
  rw [hkind]
  split <;> rfl

theorem step_inPackage (line : Text) :
    step (src.inPackage id) (st.inPackage id) line = (step src st line).inPackage id := by
  cases hh : isHeader src line with
  | true =>
    rw [step_of_header src st hh, step_of_header (src.inPackage id) (st.inPackage id) hh]
    exact header_inPackage id src { st with lines := st.lines + 1 } line _
  | false =>
    rw [step_of_noise src st hh, step_of_noise (src.inPackage id) (st.inPackage id) hh]
    have hpending : (st.inPackage id).pending = st.pending.map (Record.inPackage id) := rfl
    rw [hpending]
    cases st.pending with
    | none => rfl
    | some r => exact continuation_inPackage id src { st with lines := st.lines + 1 } line r

theorem ofLines_inPackage (lines : List Text) : ofLines (src.inPackage id) lines = (ofLines src lines).inPackage id := by
  have hfold : lines.foldl (step (src.inPackage id)) (State.inPackage id {}) =
      (lines.foldl (step src) {}).inPackage id :=
    List.foldl_hom (State.inPackage id) fun st line => step_inPackage id src st line
  have hempty : State.inPackage id {} = {} := rfl
  rw [hempty] at hfold
  rw [ofLines, hfold]
  simp [ofLines, State.toScan, inPackage, State.inPackage, Source.inPackage, List.map_reverse]

/-- **The package is a label**: the scan of a log does not depend on it. -/
theorem ofContent_inPackage (content : Text) :
    (ofContent (src.inPackage id) content).1 = (ofContent src content).1.inPackage id := by
  unfold ofContent
  simp only [ofLines_inPackage]
  split
  · simp [stopped, inPackage, Source.failure, Failure.inPackage, Source.inPackage]
  · rfl

end Labels

/-- Each line of a log gives at most one record. -/
theorem nodup_positions (src : Source) (content : Text) :
    ((ofContent src content).1.records.map Record.position).Nodup := by
  obtain ⟨lines, -, -, hrecords, -⟩ := exists_lines src content
  rw [hrecords, List.Nodup, List.pairwise_map]
  refine (records_ofLines_increasing src lines).imp fun hlt heq => ?_
  exact absurd (congrArg Prod.snd heq) (Int.ne_of_lt hlt)

end Scan

end CastAudit
