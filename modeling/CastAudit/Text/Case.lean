import CastAudit.Character.Case
import CastAudit.Text.Utf8

/-!
# Texts in lower case

`small` writes every character of a text by its small form. A stray byte has none and becomes the
replacement character.
-/

namespace CastAudit.Text

def small (s : Text) : Text := (pieces s).flatMap fun p => encode (Character.lower p.code)

/-- The two texts differ in the case of letters at most. -/
def sameLetters (s t : Text) : Bool :=
  (pieces s).map (fun p => Character.fold p.code) == (pieces t).map fun p => Character.fold p.code

end CastAudit.Text
