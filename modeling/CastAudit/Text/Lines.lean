import CastAudit.Text.Basic

/-!
# Lines of bounded length

A reader of lines refuses a line of `limit` bytes or more, a trailing carriage return counted, and
stops there. `Lines.read` gives the lines before the first such line, without their line feeds and
without one trailing carriage return each, and says whether there is such a line. Bytes after the
last line feed are a line of their own, an empty rest is none.
-/

namespace CastAudit

/-- The lines read from a content and whether a line of forbidden length stopped the reading. -/
structure Lines where
  /-- The lines before the first over-long one. -/
  lines : List Text
  /-- A line reached the limit. -/
  tooLong : Bool
deriving Repr, BEq, DecidableEq

namespace Lines

/-- A line kept last byte first, turned round and without one trailing carriage return. -/
def finish (seen : Text) : Text :=
  match seen with
  | [] => []
  | b :: r => if b = Text.cr then r.reverse else (b :: r).reverse

/-- The loop of `read`: `seen` holds the `size` bytes of the line under way, last first, and `done` the
finished lines, last first. -/
def readFrom (limit : Nat) (done : List Text) (size : Nat) (seen : Text) : Text → Lines
  | [] =>
    if seen.isEmpty then ⟨done.reverse, false⟩ else ⟨(finish seen :: done).reverse, false⟩
  | b :: rest =>
    if b = Text.lf then readFrom limit (finish seen :: done) 0 [] rest
    else if size + 1 < limit then readFrom limit done (size + 1) (b :: seen) rest
    else ⟨done.reverse, true⟩

/-- The lines of a content, all shorter than `limit` bytes. -/
def read (limit : Nat) (content : Text) : Lines := readFrom limit [] 0 [] content

/-- The limit for log and report lines, which may carry very long type names. -/
abbrev wide : Nat := 1048576

/-- The limit for the lines of listings, failure lists and number files. -/
abbrev narrow : Nat := 65536

end Lines

end CastAudit
