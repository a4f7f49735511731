import CastAudit.Text.Basic

/-!
# Tables of characters

A class of characters as the ranges of its codes. Where the two cases of letters take turns, a class holds
every other code of a range.
-/

namespace CastAudit.Character

/-- A class of characters. -/
structure Table where
  ranges : List (Nat × Nat)
  /-- Ranges of which every other code belongs to the class, the first and the last one among them. -/
  alternating : List (Nat × Nat) := []
deriving Repr, BEq, DecidableEq, Inhabited

def isWithin (ranges : List (Nat × Nat)) (code : Nat) : Bool := ranges.any fun r => r.1 ≤ code && code ≤ r.2

/-- The code belongs to the class. -/
def Table.holds (t : Table) (code : Nat) : Bool :=
  isWithin t.ranges code || t.alternating.any fun r => r.1 ≤ code && code ≤ r.2 && (code - r.1) % 2 = 0

end CastAudit.Character
