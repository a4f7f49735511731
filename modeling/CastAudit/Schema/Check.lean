import CastAudit.Binary
import CastAudit.Fault
import CastAudit.Json.Printer
import CastAudit.Schema
import CastAudit.Schema.Format

/-!
# Checking documents

`Schema.violations` lists the places of a document that break a schema, each with its path of names and
indices joined by full stops; the whole document is called `(root)`. Where a schema offers several others,
the violations of the closest of them are told, so `Schema.check` also keeps a score.
-/

namespace CastAudit.Schema

/-! ## single values -/

/-- The path of a step down from a place, innermost first. -/
abbrev Place := List Text

/-- How a place is named. -/
def placeName (place : Place) : Text :=
  if place.isEmpty then "(root)" else Text.join [Text.dot] place.reverse

/-- A violation at a place. A place without a name is taken for the whole document. -/
def violation (place : Place) (message : Text) : Violation :=
  let name := placeName place
  ⟨if name.isEmpty then placeName [] else name, message⟩

/-- How numbers are shown in documents: as whole numbers below a large bound, else with an exponent. -/
def documentStyle : Decimal.Style := ⟨-6, 21, 1⟩

/-- How limits are shown: with an exponent from the seventh place on. -/
def limitStyle : Decimal.Style := ⟨-4, 6, 2⟩

/-- The double nearest to a number literal, if it is not too large. -/
def double? (literal : Text) : Option Binary :=
  let l := Decimal.Literal.of literal
  Binary.double? l.magnitude l.value.exponent

/-- A number literal in the shortest form of its double. One that is too large stays as it is. -/
def shortNumber (literal : Text) : Text :=
  match double? literal with
  | some d => let (digits, exponent) := d.doubleDigits; Decimal.print documentStyle (Text.signOf literal).1 digits exponent
  | none => literal

/-- How a value is shown and compared: numbers in their shortest form, fields sorted. -/
def showValue (value : Json) : Text := (value.tidy shortNumber).compact

def keeps (bound : Bound) (limit value : Decimal) : Bool :=
  match bound with
  | .atLeast => !value.less limit
  | .atMost => !limit.less value
  | .above => limit.less value
  | .below => value.less limit

/-- The message of a limit that a number breaks. -/
def limitMessage (bound : Bound) (limit : Decimal) : Text :=
  (match bound with
   | .atLeast => "Must be greater than or equal to "
   | .atMost => "Must be less than or equal to "
   | .above => "Must be greater than "
   | .below => "Must be less than " : Text) ++ Decimal.printRounded limitStyle limit

/-- The exact value of a number. -/
def numberOf? : Json → Option Decimal
  | .number literal => Decimal.ofLiteral? literal
  | _ => none

def keepsSize (bound : SizeBound) (limit size : Nat) : Bool :=
  match bound with
  | .atLeast => limit ≤ size
  | .atMost => size ≤ limit

/-- The message of a limit on the length of a string. -/
def lengthMessage (bound : SizeBound) (size : Nat) : Text :=
  (match bound with
   | .atLeast => "String length must be greater than or equal to "
   | .atMost => "String length must be less than or equal to " : Text) ++ Text.ofNat size

/-- The message of a limit on the number of items. -/
def itemCountMessage (bound : SizeBound) (size : Nat) : Text :=
  (match bound with
   | .atLeast => "Array must have at least "
   | .atMost => "Array must have at most " : Text) ++ Text.ofNat size ++ " items"

/-- The message of a limit on the number of fields. -/
def fieldCountMessage (bound : SizeBound) (size : Nat) : Text :=
  (match bound with
   | .atLeast => "Must have at least "
   | .atMost => "Must have at most " : Text) ++ Text.ofNat size ++ " properties"

/-- Accepts no document. A field without a schema of its own is then told of by its name. -/
def refusesAll : Schema → Bool
  | .always accepts => !accepts
  | .asks _ _ | .refers _ => false

/-! ## verdicts -/

/-- What checking a value finds. Of several schemas that refuse a value the one with the best score is
taken for the one that was meant: every step of a check that is passed counts for it, and every violation
twice as much against it. -/
structure Verdict where
  violations : List Violation := []
  score : Int := 0
deriving Repr, BEq, DecidableEq, Inhabited

namespace Verdict

/-- Two verdicts on one value. -/
def both (a b : Verdict) : Verdict := ⟨a.violations ++ b.violations, a.score + b.score⟩

instance : Append Verdict := ⟨both⟩

def all (verdicts : List Verdict) : Verdict := verdicts.foldr both {}

def accepts (v : Verdict) : Bool := v.violations.isEmpty

def passed (steps : Int) : Verdict := ⟨[], steps⟩

def fault (place : Place) (message : Text) : Verdict := ⟨[violation place message], -2⟩

/-- A violation at a place unless a rule holds. -/
def demand (holds : Bool) (place : Place) (message : Text) : Verdict := if holds then {} else fault place message

/-- The first of the verdicts with the best score. -/
def closest : List Verdict → Verdict
  | [] => {}
  | v :: rest => rest.foldl (fun best v => if best.score < v.score then v else best) v

end Verdict

/-- The steps of checking a value of its kind. -/
def stepsOf : Json → Int
  | .null | .bool _ => 3
  | _ => 4

/-! ## rules on whole values -/

/-- The names that an object must have. -/
def checkRequired (place : Place) (fields : List (Text × Json)) (names : List Text) : Verdict :=
  Verdict.all (names.map fun n =>
    if (Json.field? fields n).isSome then Verdict.passed 1 else Verdict.fault place (n ++ " is required"))

/-- The pairs of equal items: each item with the nearest one before it that is equal to it. -/
def repeats (items : List Text) : List (Nat × Nat) :=
  items.zipIdx.filterMap fun (item, j) =>
    ((items.take j).zipIdx.reverse.find? fun p => p.1 == item).map fun p => (p.2, j)

/-- No two items are equal. -/
def checkDistinct (place : Place) (items : List Json) : Verdict :=
  Verdict.all ((repeats (items.map showValue)).map fun (i, j) =>
    Verdict.fault place ("array items[" ++ Text.ofNat i ++ "," ++ Text.ofNat j ++ "] must be unique"))

/-- At least one verdict on a value accepts it. -/
def someOf (place : Place) (verdicts : List Verdict) : Verdict :=
  if verdicts.isEmpty || verdicts.any Verdict.accepts then {}
  else Verdict.fault place "Must validate at least one schema (anyOf)" ++ Verdict.closest verdicts

/-- Exactly one verdict on a value accepts it. -/
def oneOnly (place : Place) (verdicts : List Verdict) : Verdict :=
  let accepting := verdicts.countP Verdict.accepts
  if verdicts.isEmpty || accepting = 1 then {}
  else Verdict.fault place "Must validate one and only one schema (oneOf)" ++
    (if accepting = 0 then Verdict.closest verdicts else {})

/-- At least one of the verdicts on the items of an array accepts. -/
def someItemOf (place : Place) (verdicts : List Verdict) : Verdict :=
  if verdicts.any Verdict.accepts then {}
  else Verdict.fault place "At least one of the items must match" ++ Verdict.closest verdicts

/-- A verdict that is told only if it refuses, after a message. -/
def toldWith (place : Place) (message : Text) (verdict : Verdict) : Verdict :=
  if verdict.accepts then {} else Verdict.fault place message ++ verdict

/-! ## documents -/

/-- The verdict of the schema with a name on a value at a place. -/
abbrev Referred := Text → Place → Json → Verdict

mutual

def check (refer : Referred) (place : Place) (value : Json) : Schema → Verdict
  | .always true => {}
  | .always false => Verdict.fault place "False always fails validation"
  | .refers name => refer name place value
  | .asks types constraints =>
    if types.isEmpty || types.any (JsonType.of value).serves then
      Verdict.passed (stepsOf value) ++ checkAll refer place value constraints
    else Verdict.fault place ("Invalid type. Expected: " ++ JsonType.showAll types ++ ", given: " ++
      (JsonType.of value).name)

def checkAll (refer : Referred) (place : Place) (value : Json) : List Constraint → Verdict
  | [] => {}
  | c :: rest => checkOne refer place value c ++ checkAll refer place value rest

def checkOne (refer : Referred) (place : Place) (value : Json) : Constraint → Verdict
  | .required names =>
    match value with
    | .object fields => checkRequired place fields names
    | _ => {}
  | .fields named formed others =>
    match value with
    | .object fields =>
      let fields := Json.sortedFields fields
      -- names that neither stand in the schema nor match one of its forms
      let isFree (name : Text) : Bool :=
        !(named.map Prod.fst).contains name && !formed.any fun f => f.1.occursIn name
      let free := Verdict.all ((fields.filter fun f => isFree f.1).map fun f =>
        if others.refusesAll then Verdict.fault place ("Additional property " ++ f.1 ++ " is not allowed")
        else check refer (f.1 :: place) f.2 others)
      let found := fields.countP fun f => formed.any fun g => g.1.occursIn f.1
      free ++ Verdict.passed found ++ checkFormed refer place fields formed ++ checkNamed refer place fields named
    | _ => {}
  | .fieldNames schema =>
    match value with
    | .object fields =>
      Verdict.all ((Json.sortedFields fields).map fun f =>
        toldWith place ("Property name of \"" ++ f.1 ++ "\" does not match") (check refer place (.string f.1) schema))
    | _ => {}
  | .needs name others =>
    match value with
    | .object fields =>
      if (Json.field? fields name).isNone then {}
      else Verdict.all (others.map fun n =>
        Verdict.demand (Json.field? fields n).isSome place ("Has a dependency on " ++ n))
    | _ => {}
  | .needsSchema name schema =>
    match value with
    | .object fields => if (Json.field? fields name).isNone then {} else check refer place value schema
    | _ => {}
  | .items schema =>
    match value with
    | .array items => Verdict.all (items.zipIdx.map fun i => check refer (Text.ofNat i.2 :: place) i.1 schema)
    | _ => {}
  | .tuple schemas others =>
    match value with
    | .array items =>
      -- the items behind those that have a schema of their own
      let more := items.zipIdx.drop schemas.length
      checkTuple refer place 0 items schemas ++
        if others.refusesAll then Verdict.demand more.isEmpty place "No additional items allowed on array"
        else Verdict.all (more.map fun i => check refer (Text.ofNat i.2 :: place) i.1 others)
    | _ => {}
  | .someItem schema =>
    match value with
    | .array items => someItemOf place (items.zipIdx.map fun i => check refer (Text.ofNat i.2 :: place) i.1 schema)
    | _ => {}
  | .distinctItems =>
    match value with
    | .array items => checkDistinct place items
    | _ => {}
  | .oneOf values =>
    Verdict.demand ((values.map showValue).contains (showValue value)) place
      (placeName place ++ " must be one of the following: " ++ Text.join ", " (values.map showValue))
  | .exactly expected =>
    Verdict.demand (showValue expected == showValue value) place
      (placeName place ++ " does not match: " ++ showValue expected)
  | .limit bound limit =>
    match numberOf? value with
    | some d => Verdict.demand (keeps bound limit d) place (limitMessage bound limit)
    | none => {}
  | .multipleOf divisor =>
    match numberOf? value with
    | some d =>
      Verdict.demand (divisor.divides d) place ("Must be a multiple of " ++ Decimal.printRounded limitStyle divisor)
    | none => {}
  | .length bound size =>
    match value with
    | .string s => Verdict.demand (keepsSize bound size (Text.charCount s)) place (lengthMessage bound size)
    | _ => {}
  | .holding written pattern =>
    match value with
    | .string s => Verdict.demand (pattern.occursIn s) place ("Does not match pattern '" ++ written ++ "'")
    | _ => {}
  | .itemCount bound size =>
    match value with
    | .array items => Verdict.demand (keepsSize bound size items.length) place (itemCountMessage bound size)
    | _ => {}
  | .fieldCount bound size =>
    match value with
    | .object fields =>
      Verdict.demand (keepsSize bound size (Json.sortedFields fields).length) place (fieldCountMessage bound size)
    | _ => {}
  | .format name =>
    let fits := match value with
      | .string s => hasFormat name s
      -- formats are for strings; one with a rule refuses a number, one without lets it pass
      | .number _ => !isFormat name
      | _ => true
    Verdict.demand fits place ("Does not match format '" ++ name ++ "'")
  | .someSchema schemas => someOf place (checkEach refer place value schemas)
  | .oneSchema schemas => oneOnly place (checkEach refer place value schemas)
  | .allSchemas schemas =>
    let verdicts := checkEach refer place value schemas
    Verdict.all verdicts ++
      Verdict.demand (verdicts.all Verdict.accepts) place "Must validate all the schemas (allOf)"
  | .noSchema schema =>
    Verdict.demand (!(check refer place value schema).accepts) place "Must not validate the schema (not)"
  | .depending test yes no =>
    if (check refer place value test).accepts then
      toldWith place "Must validate \"then\" as \"if\" was valid" (check refer place value yes)
    else toldWith place "Must validate \"else\" as \"if\" was not valid" (check refer place value no)

/-- The verdict on the named fields that are there. -/
def checkNamed (refer : Referred) (place : Place) (fields : List (Text × Json)) : List (Text × Schema) → Verdict
  | [] => {}
  | (name, schema) :: rest =>
    (match fields.lookup name with
     | some value => check refer (name :: place) value schema
     | none => {}) ++ checkNamed refer place fields rest

/-- The verdict on the fields with a name of some form. -/
def checkFormed (refer : Referred) (place : Place) (fields : List (Text × Json)) : List (Regex × Schema) → Verdict
  | [] => {}
  | (pattern, schema) :: rest =>
    Verdict.all ((fields.filter fun f => pattern.occursIn f.1).map fun f => check refer (f.1 :: place) f.2 schema) ++
      checkFormed refer place fields rest

/-- The verdict on the first items of an array, from a position on. -/
def checkTuple (refer : Referred) (place : Place) (position : Nat) (items : List Json) : List Schema → Verdict
  | [] => {}
  | schema :: rest =>
    (match items[position]? with
     | some item => check refer (Text.ofNat position :: place) item schema
     | none => {}) ++ checkTuple refer place (position + 1) items rest

def checkEach (refer : Referred) (place : Place) (value : Json) : List Schema → List Verdict
  | [] => []
  | schema :: rest => check refer place value schema :: checkEach refer place value rest

end

/-- The verdict of a known schema on a value, with at most `fuel` references one behind the other. -/
def checkKnown (known : List (Text × Schema)) (fuel : Nat) : Referred := fun name place value =>
  match fuel with
  | 0 => {}
  | fuel + 1 =>
    match known.lookup name with
    | some schema => check (checkKnown known fuel) place value schema
    | none => {}

/-- The number of references that can follow each other in a document: at every place each schema once. -/
def longestChain (known : List (Text × Schema)) (document : Json) : Nat :=
  (document.depth + 2) * (known.length + 1)

/-- The violations of a schema in a document, given the schemas that it refers to. -/
def violations (schema : Schema) (document : Json) (known : List (Text × Schema) := []) : List Violation :=
  (check (checkKnown known (longestChain known document)) [] document schema).violations

end CastAudit.Schema
