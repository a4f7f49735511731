import CastAudit.Text.Decimal

/-!
# Rules on fields

Packages and settings obey small rules on single fields. A broken rule names the structure, the field
and the rule; several are told one per line, in field order.
-/

namespace CastAudit

/-- A rule that a field breaks. -/
inductive Rule where
  | required
  | excludesAll
  | min
  | max
  | oneOf
  | url
deriving Repr, BEq, DecidableEq, Inhabited

def Rule.word : Rule → Text
  | required => "required"
  | excludesAll => "excludesall"
  | min => "min"
  | max => "max"
  | oneOf => "oneof"
  | url => "url"

/-- A field of a structure and the rule that it breaks. -/
structure BrokenRule where
  owner : Text
  field : Text
  rule : Rule
deriving Repr, BEq, DecidableEq, Inhabited

def BrokenRule.message (b : BrokenRule) : Text :=
  "Key: '" ++ b.owner ++ "." ++ b.field ++ "' Error:Field validation for '" ++ b.field ++
    "' failed on the '" ++ b.rule.word ++ "' tag"

/-- The first rule of a list that a field breaks: each rule comes with whether it holds. -/
def firstBroken (owner field : Text) (rules : List (Rule × Bool)) : List BrokenRule :=
  match rules.find? fun r => !r.2 with
  | some r => [⟨owner, field, r.1⟩]
  | none => []

end CastAudit
