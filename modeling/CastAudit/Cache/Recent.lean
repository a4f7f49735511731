import CastAudit.Text.Basic

/-!
# Recently used values

A bounded memory of values by key. The list holds the most recently used first, each key once; reading
and writing a key brings it to the front, and what falls off the end is forgotten.
-/

namespace CastAudit.Cache

/-- A memory of at most `capacity` values. -/
structure Recent (α : Type) where
  capacity : Nat
  items : List (Text × α) := []
deriving Repr, BEq, Inhabited

namespace Recent

variable {α : Type}

def value? (r : Recent α) (key : Text) : Option α := r.items.lookup key

/-- The memory with a key and its value in front. -/
def touch (r : Recent α) (key : Text) (value : α) : Recent α :=
  { r with items := ((key, value) :: r.items.filter fun i => i.1 != key).take r.capacity }

end Recent

end CastAudit.Cache
