import CastAudit.Csv.Writer
import CastAudit.Record

/-!
# Conversion patterns

Records with the same kind and types follow one pattern. `Pattern.frequency` counts them, most
frequent first, and `PatternReport.ofCounts` keeps the first few.
-/

namespace CastAudit

/-- What groups records: their kind and types. -/
structure Pattern where
  kind : Kind := .none
  fromType : Text := []
  toType : Text := []
deriving Repr, BEq, ReflBEq, LawfulBEq, DecidableEq, Inhabited

def Record.pattern (r : Record) : Pattern := ⟨r.kind, r.fromType, r.toType⟩

/-- A pattern with the number of its records. -/
structure PatternCount where
  pattern : Pattern := {}
  count : Int := 0
deriving Repr, BEq, DecidableEq, Inhabited

namespace Pattern

/-- The printed form: `tag:from>to` for conversions, else the tag. -/
def label (p : Pattern) : Text :=
  if p.kind.isConversion then p.kind.tag ++ ":" ++ p.fromType ++ ">" ++ p.toType else p.kind.tag

/-- The order of patterns: by tag, then by the type converted from, then by the other. -/
def before (p q : Pattern) : Bool :=
  if p.kind.tag ≠ q.kind.tag then Text.before p.kind.tag q.kind.tag
  else if p.fromType ≠ q.fromType then Text.before p.fromType q.fromType
  else Text.before p.toType q.toType

end Pattern

namespace PatternCount

/-- The order of a frequency table: larger counts first, equal counts by pattern. -/
def before (a b : PatternCount) : Bool :=
  if a.count ≠ b.count then b.count < a.count else a.pattern.before b.pattern

end PatternCount

/-- The patterns of some records with their counts, most frequent first. -/
def Pattern.frequency (records : List Record) : List PatternCount :=
  let patterns := records.map Record.pattern
  (patterns.eraseDups.map fun p => (⟨p, patterns.count p⟩ : PatternCount)).mergeSort
    fun a b => !b.before a

/-- A frequency table cut to its head, with the number of all records. -/
structure PatternReport where
  total : Int
  patterns : List PatternCount
deriving Repr, BEq, DecidableEq, Inhabited

/-- The report of a frequency table. A positive `top` keeps that many patterns; the total counts all. -/
def PatternReport.ofCounts (counts : List PatternCount) (top : Int) : PatternReport where
  total := Text.sum64 (counts.map PatternCount.count)
  patterns := if 0 < top then counts.take top.toNat else counts

/-- The printed table: a row of label and count for each pattern. -/
def PatternCount.print (counts : List PatternCount) : Text :=
  Csv.writeRows (counts.map fun c => [c.pattern.label, Text.ofInt c.count])

end CastAudit
