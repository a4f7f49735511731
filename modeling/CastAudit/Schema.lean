import CastAudit.Decimal
import CastAudit.Json.Basic
import CastAudit.Regex

/-!
# Schemas of JSON documents

A schema says which documents are well-formed: it is a list of constraints, or accepts or refuses
everything, or refers to another schema.
-/

namespace CastAudit

/-- The types that a schema can ask for. -/
inductive JsonType where
  | array
  | boolean
  | integer
  | number
  | null
  | object
  | string
deriving Repr, BEq, DecidableEq, Inhabited

namespace JsonType

def all : List JsonType := [array, boolean, integer, number, null, object, string]

def name : JsonType → Text
  | array => "array"
  | boolean => "boolean"
  | integer => "integer"
  | number => "number"
  | null => "null"
  | object => "object"
  | string => "string"

/-- The narrowest type of a value. -/
def of : Json → JsonType
  | .null => null
  | .bool _ => boolean
  | .number literal => if (Decimal.ofLiteral? literal).any Decimal.isWhole then integer else number
  | .string _ => string
  | .array _ => array
  | .object _ => object

/-- A value of type `given` is one of type `expected`. -/
def serves (given expected : JsonType) : Bool := given == expected || (given == integer && expected == number)

/-- How a message shows the expected types. -/
def showAll : List JsonType → Text
  | [t] => t.name
  | ts => "[" ++ Text.join "," (ts.map name) ++ "]"

end JsonType

/-- A limit on a number. -/
inductive Bound where
  | atLeast
  | atMost
  | above
  | below
deriving Repr, BEq, DecidableEq, Inhabited

/-- A limit on a size. -/
inductive SizeBound where
  | atLeast
  | atMost
deriving Repr, BEq, DecidableEq, Inhabited

mutual

/-- A schema. -/
inductive Schema where
  /-- Accepts every document or none. -/
  | always (accepts : Bool)
  /-- Asks for one of some types, if any are named, and for constraints. -/
  | asks (types : List JsonType) (constraints : List Constraint)
  /-- Asks for what the schema with a name asks for, which may be one that this is a part of. -/
  | refers (name : Text)

/-- A constraint of a schema. Most are about one kind of value and let all others pass. -/
inductive Constraint where
  /-- The names that an object must have. -/
  | required (names : List Text)
  /-- The schemas of named fields, of fields with a name of some form, and of all others. -/
  | fields (named : List (Text × Schema)) (formed : List (Regex × Schema)) (others : Schema)
  | fieldNames (schema : Schema)
  /-- With one name an object must have some others. -/
  | needs (name : Text) (others : List Text)
  /-- With one name an object must satisfy a schema. -/
  | needsSchema (name : Text) (schema : Schema)
  /-- The schema of all items of an array. -/
  | items (schema : Schema)
  /-- The schemas of the first items of an array and of all others. -/
  | tuple (schemas : List Schema) (others : Schema)
  /-- The schema of at least one item of an array. -/
  | someItem (schema : Schema)
  /-- No two items of an array are equal. -/
  | distinctItems
  /-- The allowed values. -/
  | oneOf (values : List Json)
  /-- The only allowed value. -/
  | exactly (value : Json)
  /-- A limit on numbers. -/
  | limit (bound : Bound) (value : Decimal)
  /-- A number that divides. -/
  | multipleOf (divisor : Decimal)
  /-- A limit on the number of characters of a string. -/
  | length (bound : SizeBound) (size : Nat)
  /-- An expression that occurs in a string, with the text that writes it. -/
  | holding (written : Text) (pattern : Regex)
  /-- A limit on the number of items of an array. -/
  | itemCount (bound : SizeBound) (size : Nat)
  /-- A limit on the number of fields of an object. -/
  | fieldCount (bound : SizeBound) (size : Nat)
  /-- A named format of strings. -/
  | format (name : Text)
  /-- At least one of some schemas. -/
  | someSchema (schemas : List Schema)
  /-- Exactly one of some schemas. -/
  | oneSchema (schemas : List Schema)
  | allSchemas (schemas : List Schema)
  | noSchema (schema : Schema)
  /-- One schema for the values that satisfy a test, another for those that do not. -/
  | depending (test yes no : Schema)

end

instance : Inhabited Schema := ⟨.always true⟩

end CastAudit
