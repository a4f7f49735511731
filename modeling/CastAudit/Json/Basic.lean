import CastAudit.Text.Decimal
import CastAudit.Text.Utf8

/-!
# JSON values

A value keeps the fields of an object in their order and a number as the digits it was written with, so
that a report prints as it was built and a large number loses nothing.
-/

namespace CastAudit

/-- A JSON value. -/
inductive Json where
  | null
  | bool (value : Bool)
  /-- A number as it is written. -/
  | number (literal : Text)
  | string (value : Text)
  | array (items : List Json)
  | object (fields : List (Text × Json))
deriving Repr, BEq, Inhabited

namespace Json

def ofInt (i : Int) : Json := number (Text.ofInt i)

/-! ## objects -/

def textField (name : String) (value : Text) : Text × Json := (name, string value)

def intField (name : String) (value : Int) : Text × Json := (name, ofInt value)

/-- A field with a text, left out when that is empty. -/
def filledText (name : String) (value : Text) : List (Text × Json) :=
  if value.isEmpty then [] else [textField name value]

/-- A field with an integer, left out when that is zero. -/
def filledInt (name : String) (value : Int) : List (Text × Json) :=
  if value = 0 then [] else [intField name value]

/-- The value of a name; of two fields with one name the later counts. -/
def field? (fields : List (Text × Json)) (name : Text) : Option Json := fields.reverse.lookup name

/-- The fields of an object, sorted by name, each name once with its last value. -/
def sortedFields (fields : List (Text × Json)) : List (Text × Json) :=
  (fields.reverse.eraseDupsBy fun a b => a.1 == b.1).mergeSort fun a b => !Text.before b.1 a.1

/-! ## whole values -/

mutual

/-- The value with the fields of every object sorted, each name once with its last value, and with its
numbers written anew. -/
def tidy (write : Text → Text) : Json → Json
  | number literal => number (write literal)
  | array items => array (tidyItems write items)
  | object fields => object (sortedFields (tidyFields write fields))
  | value => value

def tidyItems (write : Text → Text) : List Json → List Json
  | [] => []
  | item :: rest => tidy write item :: tidyItems write rest

def tidyFields (write : Text → Text) : List (Text × Json) → List (Text × Json)
  | [] => []
  | (name, value) :: rest => (name, tidy write value) :: tidyFields write rest

end

mutual

/-- How deep arrays and objects stand inside each other. -/
def depth : Json → Nat
  | array items => depthItems items + 1
  | object fields => depthFields fields + 1
  | _ => 0

def depthItems : List Json → Nat
  | [] => 0
  | item :: rest => max (depth item) (depthItems rest)

def depthFields : List (Text × Json) → Nat
  | [] => 0
  | (_, value) :: rest => max (depth value) (depthFields rest)

end

mutual

/-- All numbers of the value have a property. -/
def allNumbers (p : Text → Bool) : Json → Bool
  | number literal => p literal
  | array items => allNumbersOfItems p items
  | object fields => allNumbersOfFields p fields
  | _ => true

def allNumbersOfItems (p : Text → Bool) : List Json → Bool
  | [] => true
  | item :: rest => allNumbers p item && allNumbersOfItems p rest

def allNumbersOfFields (p : Text → Bool) : List (Text × Json) → Bool
  | [] => true
  | (_, value) :: rest => allNumbers p value && allNumbersOfFields p rest

end

end Json

end CastAudit
