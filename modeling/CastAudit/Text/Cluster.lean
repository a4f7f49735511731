import CastAudit.Text.Utf8
import CastAudit.Text.ClusterTable

/-!
# Character clusters

What a reader takes for one character may be several: a letter with its marks, a flag of two regional
letters, pictographs joined to a family. `clusters` groups the units of a text by the extended
grapheme cluster rules of Unicode 15. A unit is as long as its first byte announces, whether or not it is a
well-formed character.
-/

namespace CastAudit.Text

/-! ## units -/

/-- The number of bytes that a first byte announces. -/
def announced (b : UInt8) : Nat :=
  if b < 0xc2 || 0xf8 ≤ b then 1 else if b < 0xe0 then 2 else if b < 0xf0 then 3 else 4

/-- The number of bytes at the front of a text that stand for one unit: the announced ones, or those
before the first that does not continue them. -/
def unitLength : Text → Nat
  | [] => 0
  | b :: rest => 1 + ((rest.take (announced b - 1)).takeWhile isTail).length

/-- The class of a unit; one that is no character joins nothing. -/
def unitClass (unit : Text) : ClusterClass :=
  match pieces unit with
  | [.scalar c _] => clusterClass c
  | _ => .other

/-- The loop of `units`, with the units found so far, last first. As every unit takes a byte, `fuel`
bounds their number. -/
def unitsFrom (fuel : Nat) (found : List (ClusterClass × Text)) (s : Text) : List (ClusterClass × Text) × Text :=
  match fuel, s with
  | 0, _ => (found.reverse, s)
  | _, [] => (found.reverse, [])
  | fuel + 1, b :: rest =>
    if (rest.take (announced b - 1)).length < announced b - 1 then (found.reverse, s)
    else
      let unit := s.take (unitLength s)
      unitsFrom fuel ((unitClass unit, unit) :: found) (s.drop unit.length)

/-- The units of a text with their classes, and the bytes at its end that are fewer than announced. -/
def units (s : Text) : List (ClusterClass × Text) × Text := unitsFrom s.length [] s

/-! ## breaks -/

/-- What the break rules need to know of the units so far: the class of the last one, whether it ends
an odd run of regional letters, and whether a pictograph followed by marks precedes it. -/
structure ClusterState where
  last : ClusterClass
  oddRegional : Bool
  afterPictograph : Bool

/-- No break between the last unit and one of class `next`. -/
def ClusterState.joins (st : ClusterState) (next : ClusterClass) : Bool :=
  match st.last, next with
  | .carriageReturn, .lineFeed => true
  | .carriageReturn, _ | .lineFeed, _ | .control, _ => false
  | _, .carriageReturn | _, .lineFeed | _, .control => false
  | _, .extend | _, .joiner | _, .spacing => true
  | .prepended, _ => true
  | .leadJamo, .leadJamo | .leadJamo, .vowelJamo | .leadJamo, .openSyllable
  | .leadJamo, .closedSyllable => true
  | .openSyllable, .vowelJamo | .openSyllable, .tailJamo => true
  | .vowelJamo, .vowelJamo | .vowelJamo, .tailJamo => true
  | .closedSyllable, .tailJamo | .tailJamo, .tailJamo => true
  | .joiner, .pictograph => st.afterPictograph
  | .regional, .regional => st.oddRegional
  | _, _ => false

/-- The state after a unit of class `next`. -/
def ClusterState.step (st : ClusterState) (next : ClusterClass) : ClusterState where
  last := next
  oddRegional := next == .regional && !(st.last == .regional && st.oddRegional)
  afterPictograph :=
    match next with
    | .pictograph => true
    | .extend => st.afterPictograph && st.last != .joiner
    | .joiner => st.afterPictograph && st.last != .joiner
    | _ => false

/-- The loop of `clusters`: the cluster under way and the finished ones, last first. -/
def clustersFrom (st : ClusterState) (cluster : List Text) (done : List (List Text)) :
    List (ClusterClass × Text) → List (List Text)
  | [] => if cluster.isEmpty then done else cluster :: done
  | (next, unit) :: rest =>
    if !cluster.isEmpty && st.joins next then clustersFrom (st.step next) (unit :: cluster) done rest
    else clustersFrom (st.step next) [unit] (if cluster.isEmpty then done else cluster :: done) rest

/-- The bytes at the end that are fewer than announced belong to the last cluster. -/
def withRemainder (remainder : Text) : List (List Text) → List (List Text)
  | last :: before => (remainder :: last) :: before
  | [] => [[remainder]]

def clusters (s : Text) : List Text :=
  let (found, remainder) := units s
  let groups := clustersFrom ⟨.other, false, false⟩ [] [] found
  let groups := if remainder.isEmpty then groups else withRemainder remainder groups
  groups.reverse.map fun units => units.reverse.flatten

end CastAudit.Text
