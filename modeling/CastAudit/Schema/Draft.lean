import CastAudit.Json.Basic
import CastAudit.Url

/-!
# Versions of the schema language

A schema can name the version that it is written in by an address. The three versions each have a schema
of all schemas, which stands at that address; `Draft.standard?` gives it.
-/

namespace CastAudit.Schema

/-- The versions of the schema language. -/
inductive Draft where
  | four
  | six
  | seven
  /-- No version is named: whatever one of them allows is allowed. -/
  | mixed
deriving Repr, BEq, DecidableEq, Inhabited

namespace Draft

/-- The address of a version, without its number. -/
def addressOf (number : String) : Text := "http://json-schema.org/draft-" ++ Text.ofString number ++ "/schema"

def ofAddress? (address : Text) : Option Draft :=
  if address == addressOf "04" then some four
  else if address == addressOf "06" then some six
  else if address == addressOf "07" then some seven
  else none

/-- The version knows what came with the sixth draft. -/
def hasSix (d : Draft) : Bool := d != four

/-- The version knows what came with the seventh draft. -/
def hasSeven (d : Draft) : Bool := d == seven || d == mixed

/-- The version that a schema names, if it names one that is known. What is no schema at all, or names
its version by something other than an address, has no answer. -/
def of? : Json → Option (Option Draft)
  | .bool _ => some none
  | .object fields =>
    match Json.field? fields "$schema" with
    | none => some none
    | some (.string address) => (Url.parse? address).map fun u => ofAddress? u.toText
    | some _ => none
  | _ => none

/-! ## the schemas of schemas -/

def fieldsOf (fields : List (String × Json)) : Json := .object (fields.map fun f => (Text.ofString f.1, f.2))

/-- A schema of values of a type, with more fields. -/
def typed (type : String) (more : List (String × Json)) : Json := fieldsOf (("type", .string type) :: more)

/-- A schema that refers to another place of the document. -/
def link (reference : String) : Json := fieldsOf [("$ref", .string reference)]

def defined (name : String) : Json := .object [("$ref", .string ("#/definitions/" ++ Text.ofString name))]

def anyOf (schemas : List Json) (more : List (String × Json)) : Json := fieldsOf (("anyOf", .array schemas) :: more)

def whole (n : Nat) : Json := .number (Text.ofNat n)

def typeNames : Json :=
  .array (["array", "boolean", "integer", "null", "number", "object", "string"].map fun n => .string (Text.ofString n))

/-- Objects whose fields are schemas. -/
def schemaFields (more : List (String × Json)) : Json :=
  typed "object" ([("additionalProperties", link "#")] ++ more ++ [("default", fieldsOf [])])

/-- The definitions of a version: `size` is what it calls the sizes. -/
def definitionsOf (size : String) (names : List (String × Json)) : Json :=
  .object
    [("schemaArray", typed "array" [("minItems", whole 1), ("items", link "#")]),
     (size, typed "integer" [("minimum", whole 0)]),
     (Text.ofString size ++ "Default0",
       fieldsOf [("allOf", .array [defined size, fieldsOf [("default", whole 0)]])]),
     ("simpleTypes", fieldsOf [("enum", typeNames)]),
     ("stringArray", typed "array" ([("items", typed "string" []), ("uniqueItems", .bool true)] ++ names))]

/-- The keywords about sizes; `size` is what the version calls the sizes. -/
def sizeFields (size : String) : List (String × Json) :=
  let least := Json.object [("$ref", .string ("#/definitions/" ++ Text.ofString size ++ "Default0"))]
  [("maxLength", defined size), ("minLength", least), ("maxItems", defined size), ("minItems", least),
   ("maxProperties", defined size), ("minProperties", least)]

/-- The keywords that all versions describe alike. -/
def commonFields : List (String × Json) :=
  [("title", typed "string" []), ("description", typed "string" []), ("maximum", typed "number" []),
   ("minimum", typed "number" []), ("pattern", typed "string" [("format", .string "regex")]),
   ("items", anyOf [link "#", defined "schemaArray"] [("default", fieldsOf [])]),
   ("uniqueItems", typed "boolean" [("default", .bool false)]), ("required", defined "stringArray"),
   ("definitions", schemaFields []), ("properties", schemaFields []),
   ("dependencies", typed "object"
     [("additionalProperties", anyOf [link "#", defined "stringArray"] [])]),
   ("type", anyOf [defined "simpleTypes", typed "array"
     [("items", defined "simpleTypes"), ("minItems", whole 1), ("uniqueItems", .bool true)]] []),
   ("format", typed "string" []), ("allOf", defined "schemaArray"), ("anyOf", defined "schemaArray"),
   ("oneOf", defined "schemaArray"), ("not", link "#")]

/-- The keyword for the allowed values, of which there is one and none twice. -/
def allowedValues : Json := typed "array" [("minItems", whole 1), ("uniqueItems", .bool true)]

/-- A truth value or a schema. -/
def switchOrSchema : Json := anyOf [typed "boolean" [], link "#"] [("default", fieldsOf [])]

def fourSchema : Json :=
  fieldsOf
    [("id", .string (addressOf "04" ++ "#")), ("$schema", .string (addressOf "04" ++ "#")),
     ("description", .string "Core schema meta-schema"),
     ("definitions", definitionsOf "positiveInteger" [("minItems", whole 1)]), ("type", .string "object"),
     ("properties", fieldsOf (commonFields ++ sizeFields "positiveInteger" ++
       [("id", typed "string" []), ("$schema", typed "string" []), ("default", fieldsOf []),
        ("multipleOf", typed "number" [("minimum", whole 0), ("exclusiveMinimum", .bool true)]),
        ("exclusiveMaximum", typed "boolean" []), ("exclusiveMinimum", typed "boolean" []),
        ("additionalItems", switchOrSchema), ("additionalProperties", switchOrSchema),
        ("patternProperties", schemaFields []), ("enum", allowedValues)])),
     ("dependencies", fieldsOf
       [("exclusiveMaximum", .array [.string "maximum"]), ("exclusiveMinimum", .array [.string "minimum"])]),
     ("default", fieldsOf [])]

/-- The keywords that came with the sixth draft. `anything` is how a version writes a schema of every
value. -/
def laterFields (anything : Json) : List (String × Json) :=
  let reference := typed "string" [("format", .string "uri-reference")]
  [("$id", reference), ("$schema", typed "string" [("format", .string "uri")]), ("$ref", reference),
   ("default", anything), ("examples", typed "array" [("items", anything)]),
   ("multipleOf", typed "number" [("exclusiveMinimum", whole 0)]), ("exclusiveMaximum", typed "number" []),
   ("exclusiveMinimum", typed "number" []), ("additionalItems", link "#"), ("contains", link "#"),
   ("additionalProperties", link "#"), ("propertyNames", link "#"), ("const", anything)]

def laterSchema (number : String) (anything : Json) (more : List (String × Json)) : Json :=
  fieldsOf
    [("$schema", .string (addressOf number ++ "#")), ("$id", .string (addressOf number ++ "#")),
     ("title", .string "Core schema meta-schema"),
     ("definitions", definitionsOf "nonNegativeInteger" [("default", .array [])]),
     ("type", .array [.string "object", .string "boolean"]),
     ("properties", fieldsOf (commonFields ++ sizeFields "nonNegativeInteger" ++ laterFields anything ++ more)),
     ("default", anything)]

def sixSchema : Json :=
  laterSchema "06" (fieldsOf []) [("patternProperties", schemaFields []), ("enum", allowedValues)]

def sevenSchema : Json :=
  laterSchema "07" (.bool true)
    [("$comment", typed "string" []), ("readOnly", typed "boolean" [("default", .bool false)]),
     ("patternProperties", schemaFields [("propertyNames", fieldsOf [("format", .string "regex")])]),
     ("enum", typed "array" [("items", .bool true)]), ("contentMediaType", typed "string" []),
     ("contentEncoding", typed "string" []), ("if", link "#"), ("then", link "#"), ("else", link "#")]

def standard? (address : Text) : Option Json :=
  match ofAddress? address with
  | some four => some fourSchema
  | some six => some sixSchema
  | some seven => some sevenSchema
  | _ => none

end Draft

end CastAudit.Schema
