import CastAudit.Character.Case
import CastAudit.Character.Category
import CastAudit.Text.Utf8

/-!
# Regular expressions

Expressions over characters, with edges that look at the characters on both sides of a place. For matching
an expression becomes a `Program` of small steps. A text is then gone through once, with the set of all steps
that a match under way may have come to, so that `Regex.occursIn` takes no longer than the text times the
program.
-/

namespace CastAudit

/-- A place between two characters, which are missing at the ends of a text. -/
structure Gap where
  before : Option Nat
  after : Option Nat
deriving Repr, BEq, DecidableEq, Inhabited

/-- What a place can be asked to be. -/
inductive Edge where
  | textStart
  | textEnd
  | lineStart
  | lineEnd
  | wordEdge
  | noWordEdge
deriving Repr, BEq, DecidableEq, Inhabited

/-- The letters, digits and the underscore of ASCII. -/
def wordRanges : List (Nat × Nat) := [(0x30, 0x39), (0x41, 0x5a), (0x5f, 0x5f), (0x61, 0x7a)]

/-- The place is an edge of a kind. -/
def Edge.holds (g : Gap) : Edge → Bool
  | textStart => g.before.isNone
  | textEnd => g.after.isNone
  | lineStart => g.before.all (· = 0x0a)
  | lineEnd => g.after.all (· = 0x0a)
  | wordEdge => g.before.any (Character.isWithin wordRanges) != g.after.any (Character.isWithin wordRanges)
  | noWordEdge => g.before.any (Character.isWithin wordRanges) == g.after.any (Character.isWithin wordRanges)

/-- A regular expression. -/
inductive Regex where
  /-- Matches the empty text. -/
  | blank
  /-- The characters with some codes, one after the other, in either case if that does not count. -/
  | literal (codes : List Nat) (anyCase : Bool)
  | char (set : Character.CharSet)
  | edge (edge : Edge)
  | seq (first second : Regex)
  | either (first second : Regex)
  /-- At least `least` matches and at most `most`, one after the other. -/
  | repeated (inner : Regex) (least : Nat) (most : Option Nat)
  /-- A group that a reader may refer to. -/
  | group (inner : Regex)

/-! ## programs -/

/-- A step of a program and where it leads. -/
inductive Step where
  /-- The expression has matched. -/
  | done
  /-- Takes a character of a set. -/
  | take (set : Character.CharSet) (next : Nat)
  /-- Goes on at an edge. -/
  | pass (edge : Edge) (next : Nat)
  /-- Goes on in two ways. -/
  | split (first second : Nat)

/-- The steps of an expression, referred to by their positions. -/
structure Program where
  steps : Array Step
  start : Nat

namespace Regex

/-- A function applied `count` times. -/
def iterate {α : Type} (f : α → α) : Nat → α → α
  | 0, a => a
  | count + 1, a => iterate f count (f a)

def matching (anyCase : Bool) (code : Nat) : Character.CharSet :=
  if anyCase then
    let common := Character.fold code
    fun c => Character.fold c = common
  else fun c => c = code

/-- Adds the steps of an expression that go on at `next`, and tells where they start. -/
def compile : Regex → Nat → Array Step → Nat × Array Step
  | blank, next, steps => (next, steps)
  | literal codes anyCase, next, steps =>
    codes.foldr (fun c (next, steps) => (steps.size, steps.push (.take (matching anyCase c) next))) (next, steps)
  | char set, next, steps => (steps.size, steps.push (.take set next))
  | edge e, next, steps => (steps.size, steps.push (.pass e next))
  | seq a b, next, steps =>
    let (middle, steps) := compile b next steps
    compile a middle steps
  | either a b, next, steps =>
    let (first, steps) := compile a next steps
    let (second, steps) := compile b next steps
    (steps.size, steps.push (.split first second))
  | repeated r least none, next, steps =>
    -- the loop is entered before its body is known: its place is kept by a step that is then replaced
    let loop := steps.size
    let (inner, steps) := compile r loop (steps.push .done)
    let steps := steps.setIfInBounds loop (.split inner next)
    iterate (fun (next, steps) => compile r next steps) least (loop, steps)
  | repeated r least (some most), next, steps =>
    let optional := iterate (fun (inner, steps) =>
      let (first, steps) := compile r inner steps
      (steps.size, steps.push (.split first next))) (most - least) (next, steps)
    iterate (fun (next, steps) => compile r next steps) least optional
  | group r, next, steps => compile r next steps

def program (r : Regex) : Program :=
  let (start, steps) := compile r 0 #[.done]
  ⟨steps, start⟩

end Regex

namespace Program

/-- What a match can come to at a place without taking a character: its end, or steps that take one. -/
structure Reach where
  isDone : Bool := false
  takes : List (Character.CharSet × Nat) := []

/-- Follows the steps at some positions that were not met before. As every step leads to two more at most,
`fuel` of twice their number is enough. -/
def reachFrom (steps : Array Step) (g : Gap) (fuel : Nat) (met : Array Bool) (found : Reach) :
    List Nat → Reach
  | [] => found
  | i :: rest =>
    match fuel with
    | 0 => found
    | fuel + 1 =>
      -- a loop around an empty match would come back here for ever
      if met.getD i true then reachFrom steps g fuel met found rest
      else
        let met := met.setIfInBounds i true
        match steps[i]? with
        | none => reachFrom steps g fuel met found rest
        | some .done => reachFrom steps g fuel met { found with isDone := true } rest
        | some (.take set next) => reachFrom steps g fuel met { found with takes := (set, next) :: found.takes } rest
        | some (.pass e next) => reachFrom steps g fuel met found (if e.holds g then next :: rest else rest)
        | some (.split a b) => reachFrom steps g fuel met found (a :: b :: rest)

/-- What some positions lead to at a place. -/
def reach (p : Program) (g : Gap) (positions : List Nat) : Reach :=
  reachFrom p.steps g (2 * p.steps.size + positions.length + 1) (Array.replicate p.steps.size false) {} positions

/-- The positions behind the steps that take a character. -/
def Reach.after (r : Reach) (code : Nat) : List Nat := r.takes.filterMap fun t => if t.1 code then some t.2 else none

/-- A match that has come to one of some positions, or starts later, ends in the characters that follow the
one before them. -/
def occursFrom (p : Program) (before : Option Nat) (positions : List Nat) : List Nat → Bool
  | [] => (p.reach ⟨before, none⟩ positions).isDone
  | c :: cs =>
    let here := p.reach ⟨before, some c⟩ positions
    here.isDone || occursFrom p (some c) (p.start :: here.after c) cs

/-- The program matches a part of a text. -/
def occursIn (p : Program) (s : Text) : Bool :=
  p.occursFrom none [p.start] ((Text.pieces s).map Text.Piece.code)

end Program

namespace Regex

/-- The expression matches a part of a text. -/
def occursIn (r : Regex) (s : Text) : Bool := r.program.occursIn s

end Regex

end CastAudit
