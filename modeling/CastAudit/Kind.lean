import CastAudit.Text.Decimal

/-!
# Kinds of diagnostics

A linter warns of raw pointer casts and transmutes, a bug detector reports broken layouts, exposures
of uninitialized memory and broken bit patterns. Stored data may also hold no kind or a number that no
kind has, so both are values of `Kind`; `recognized` lists the five that a log can announce.
-/

namespace CastAudit

/-- The category of a finding. -/
inductive Kind where
  /-- A line that opens no diagnostic. -/
  | none
  /-- A raw pointer-to-pointer cast. -/
  | cast
  /-- A transmute of memory. -/
  | transmute
  /-- A broken memory layout. -/
  | brokenLayout
  /-- Uninitialized memory that can be read. -/
  | uninitExposure
  /-- A value whose bit pattern its type does not allow. -/
  | brokenBitPatterns
  | other (code : Int)
deriving Repr, BEq, ReflBEq, LawfulBEq, DecidableEq, Inhabited

namespace Kind

/-- The kinds that a log can announce, in order of declaration. -/
def recognized : List Kind := [cast, transmute, brokenLayout, uninitExposure, brokenBitPatterns]

/-- The number of a kind in stored data. -/
def code : Kind → Int
  | none => 0
  | cast => 1
  | transmute => 2
  | brokenLayout => 3
  | uninitExposure => 4
  | brokenBitPatterns => 5
  | other c => c

def ofCode (c : Int) : Kind :=
  if c = 0 then none
  else if c = 1 then cast
  else if c = 2 then transmute
  else if c = 3 then brokenLayout
  else if c = 4 then uninitExposure
  else if c = 5 then brokenBitPatterns
  else other c

/-- The stable tag of a kind in written data. -/
def tag : Kind → Text
  | none => "none"
  | cast => "cast"
  | transmute => "transmute"
  | brokenLayout => "broken-layout"
  | uninitExposure => "uninit-exposure"
  | brokenBitPatterns => "broken-bitpatterns"
  | other c => "kind(" ++ Text.ofInt c ++ ")"

def ofTag? (tag : Text) : Option Kind := recognized.find? fun k => k.tag == tag

/-- Casts and transmutes carry the types that they convert. -/
def isConversion : Kind → Bool
  | cast | transmute => true
  | _ => false

/-- The kinds reported by the bug detector. -/
def isBug : Kind → Bool
  | brokenLayout | uninitExposure | brokenBitPatterns => true
  | _ => false

end Kind

end CastAudit
