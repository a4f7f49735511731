import CastAudit.Header
import CastAudit.Fault

/-!
# Scan profiles

A profile names a log format: the kinds that its headers announce and the file that the tool writes
into each package directory.
-/

namespace CastAudit

/-- A log format. -/
structure Profile where
  name : Text := []
  /-- The kinds that are looked for; an empty list restricts nothing. -/
  kinds : List Kind := []
  /-- The usual name of a log. -/
  logName : Text := []
deriving Repr, BEq, DecidableEq, Inhabited

namespace Profile

/-- The known profiles, sorted by name. -/
def all : List Profile :=
  [⟨"bugs", [.brokenLayout, .uninitExposure, .brokenBitPatterns], "report.txt"⟩,
   ⟨"cast", [.cast], "cast.log"⟩,
   ⟨"lint", [.cast, .transmute], "lint_abp.log"⟩,
   ⟨"transmute", [.transmute], "lint.log"⟩]

/-- The names of the known profiles. -/
def names : List Text := all.map Profile.name

/-- The profile used when none is asked for. -/
def defaultName : Text := "lint"

def find (name : Text) : Except Fault Profile :=
  match all.find? fun p => p.name == name with
  | some p => .ok p
  | none => .error (.profile name)

/-- The header markers that a profile looks for. -/
def markers (p : Profile) : List Text := p.kinds.map fun k => (k.marker?).getD []

end Profile

end CastAudit
