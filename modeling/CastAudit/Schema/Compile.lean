import CastAudit.Json.Reader
import CastAudit.Regex.Reader
import CastAudit.Schema.Check
import CastAudit.Schema.Library

/-!
# Schemas from JSON

A schema is itself a JSON document: a truth value, or an object of keywords. Reading one refuses a keyword
with a value of the wrong type, a size below zero, an empty range of lengths and a repeated type, name or
allowed value. Unknown keywords are passed over.

A reference leads to another place of the same document or to another document, which is then loaded. What
it leads to is read once, when the reference is first met; beside a reference that is met for the first time
no other keyword counts.
-/

namespace CastAudit.Schema

/-! ## keywords about single values -/

/-- No two values are equal. -/
def allDistinct {α : Type} [BEq α] (xs : List α) : Bool := xs.eraseDups.length = xs.length

def typeOf? : Json → Option JsonType
  | .string name => JsonType.all.find? fun t => t.name == name
  | _ => none

def types? : Option Json → Option (List JsonType)
  | none => some []
  | some (.string name) => (typeOf? (.string name)).map fun t => [t]
  | some (.array items) => do
    let types ← items.mapM typeOf?
    if allDistinct types then some types else none
  | some _ => none

def text? : Json → Option Text
  | .string s => some s
  | _ => none

/-- A size: a whole number that is not negative. -/
def size? : Json → Option Nat
  | .number literal =>
    match Text.readInt64 literal with
    | .ok n => if n < 0 then none else some n.toNat
    | .error _ => none
  | _ => none

/-- A keyword that may be absent, read if it is there. -/
def keyword? {α : Type} (fields : List (Text × Json)) (name : String) (read : Json → Option α) :
    Option (Option α) :=
  match Json.field? fields name with
  | none => some none
  | some value => (read value).map some

/-- A constraint for each limit that is there. -/
def limitsOf (low above high below : Option Decimal) : List Constraint :=
  (high.map (Constraint.limit .atMost)).toList ++ (below.map (Constraint.limit .below)).toList ++
    (low.map (Constraint.limit .atLeast)).toList ++ (above.map (Constraint.limit .above)).toList

/-- A limit and its exclusive form. In the fourth draft that is a switch which makes the limit exclusive,
later a limit of its own, which does not count if its exponent is too far from zero. -/
def bounds? (draft : Draft) (fields : List (Text × Json)) (plain exclusive : String) :
    Option (Option Decimal × Option Decimal) := do
  let limit ← keyword? fields plain numberOf?
  match Json.field? fields exclusive with
  | none => some (limit, none)
  | some (.bool b) =>
    if (draft == .four || draft == .mixed) && limit.isSome then some (if b then (none, limit) else (limit, none))
    else none
  | some (.number literal) => if draft == .four then none else some (limit, Decimal.ofLiteral? literal)
  | some _ => none

def limits? (draft : Draft) (fields : List (Text × Json)) : Option (List Constraint) := do
  let (low, above) ← bounds? draft fields "minimum" "exclusiveMinimum"
  let (high, below) ← bounds? draft fields "maximum" "exclusiveMaximum"
  some (limitsOf low above high below)

/-- A number that divides: it is above zero. -/
def divisor? (value : Json) : Option Decimal := do
  let d ← numberOf? value
  if 0 < d.mantissa then some d else none

/-- The two constraints on a size. -/
def sizes? (fields : List (Text × Json)) (least most : String)
    (constraint : SizeBound → Nat → Constraint) : Option (List Constraint) := do
  let low ← keyword? fields least size?
  let high ← keyword? fields most size?
  some ((low.map (constraint .atLeast)).toList ++ (high.map (constraint .atMost)).toList)

/-- The two constraints on a size that can be kept together. -/
def range? (fields : List (Text × Json)) (least most : String)
    (constraint : SizeBound → Nat → Constraint) : Option (List Constraint) := do
  match ← keyword? fields least size?, ← keyword? fields most size? with
  | some l, some h => if h < l then none else pure ()
  | _, _ => pure ()
  sizes? fields least most constraint

/-- The names of the keyword `required`. -/
def names? : Json → Option (List Text)
  | .array items => do
    let names ← items.mapM text?
    if allDistinct names then some names else none
  | _ => none

/-- A value whose numbers are not too large to be compared. -/
def literal? (value : Json) : Option Json :=
  if value.allNumbers fun literal => (double? literal).isSome then some value else none

/-- The values of the keyword `enum`. -/
def values? : Json → Option (List Json)
  | .array items => do
    let values ← items.mapM literal?
    if allDistinct (values.map showValue) then some values else none
  | _ => none

/-- An expression with the text that writes it. -/
def pattern? : Json → Option Constraint
  | .string written => (Regex.parse? written).map (Constraint.holding written)
  | _ => none

/-- A switch of the constraint that items differ. -/
def distinct? : Json → Option (List Constraint)
  | .bool b => some (if b then [.distinctItems] else [])
  | _ => none

/-- A text that names the schema. -/
def address? : Json → Option Unit
  | .string s => (Url.parse? s).map fun _ => ()
  | _ => none

/-- The keyword of the text that names a schema. -/
def addressKey (draft : Draft) (fields : List (Text × Json)) : String :=
  if draft == .four || (draft == .mixed && (Json.field? fields "id").isSome) then "id" else "$id"

/-- The constraints of the keywords about single values. -/
def plain? (draft : Draft) (fields : List (Text × Json)) : Option (List Constraint) := do
  let limits ← limits? draft fields
  let divisor ← keyword? fields "multipleOf" divisor?
  let lengths ← range? fields "minLength" "maxLength" Constraint.length
  let pattern ← keyword? fields "pattern" pattern?
  let format ← keyword? fields "format" text?
  let counts ← range? fields "minProperties" "maxProperties" Constraint.fieldCount
  let required ← keyword? fields "required" names?
  let itemCounts ← sizes? fields "minItems" "maxItems" Constraint.itemCount
  let distinct ← keyword? fields "uniqueItems" distinct?
  let values ← keyword? fields "enum" values?
  let only ← if draft.hasSix then keyword? fields "const" literal? else some none
  some (limits ++ (divisor.map Constraint.multipleOf).toList ++ lengths ++ pattern.toList ++ itemCounts ++
    distinct.getD [] ++ counts ++ (required.map Constraint.required).toList ++
    (only.map Constraint.exactly).toList ++ ((values.filter fun v => !v.isEmpty).map Constraint.oneOf).toList ++
    (format.map Constraint.format).toList)

/-! ## reading -/

/-- Reads schemas with the library at hand; a document that is not there is loaded. -/
abbrev Reader (m : Type → Type) := StateT Library (ExceptT SchemaProblem m)

/-- Loads the document at an address. -/
abbrev Loader (m : Type → Type) := Url → m (Except SchemaProblem Json)

variable {m : Type → Type} [Monad m]

/-- A value that must be there. -/
def need {α : Type} : Option α → Reader m α
  | some a => pure a
  | none => throw .unusable

/-- A reading whose failures all count alike. -/
def plainly {α : Type} (reading : Reader m α) : Reader m α := fun library =>
  ExceptT.adapt (fun _ => .unusable) (reading library)

/-- A keyword that may be absent, read if it is there. -/
def keyword {α : Type} (fields : List (Text × Json)) (name : String) (read : Json → Reader m α) :
    Reader m (Option α) :=
  match Json.field? fields name with
  | none => pure none
  | some value => do return some (← read value)

/-- A keyword that not all versions know. -/
def keywordIf (isKnown : Bool) (fields : List (Text × Json)) (name : String) (read : Json → Reader m Schema) :
    Reader m (Option Schema) :=
  if isKnown then keyword fields name read else pure none

/-- The named schemas of an object, sorted by name, each read by `read`. -/
def named {α : Type} (read : Text × Json → Reader m α) : Json → Reader m (List α)
  | .object fields => (Json.sortedFields fields).mapM read
  | _ => throw .unusable

def listed (read : Json → Reader m Schema) : Json → Reader m (List Schema)
  | .array items => items.mapM read
  | _ => throw .unusable

/-- The schemas of items: one for all, or one for each of the first. -/
def itemSchemas (read : Json → Reader m Schema) : Json → Reader m (Schema ⊕ List Schema)
  | .array schemas => return .inr (← schemas.mapM read)
  | value => return .inl (← read value)

def itemsOf (others : Schema) : Schema ⊕ List Schema → Constraint
  | .inl schema => .items schema
  | .inr [] => .items (.always true)
  | .inr schemas => .tuple schemas others

/-- What a name of an object brings with it: other names or a schema. -/
def dependency (read : Json → Reader m Schema) (entry : Text × Json) : Reader m Constraint :=
  match entry.2 with
  | .array items => do return .needs entry.1 (← need (items.mapM text?))
  | value => do return .needsSchema entry.1 (← read value)

/-- The schema of what no other schema speaks of; a truth value was always allowed here. -/
def others (read : Json → Reader m Schema) : Json → Reader m Schema
  | .bool b => pure (.always b)
  | value => plainly (read value)

/-- An expression for names and the schema of their fields. -/
def formed (read : Json → Reader m Schema) (entry : Text × Json) : Reader m (Regex × Schema) := do
  return (← need (Regex.parse? entry.1), ← plainly (read entry.2))

/-- The constraints of the keywords about fields. -/
def memberConstraints (draft : Draft) (read : Json → Reader m Schema) (fields : List (Text × Json)) :
    Reader m (List Constraint) := do
  let properties ← keyword fields "properties" (named fun p => return (p.1, ← read p.2))
  let otherFields ← keyword fields "additionalProperties" (others read)
  let patterns ← keyword fields "patternProperties" (named (formed read))
  let fieldNames ← keywordIf draft.hasSix fields "propertyNames" read
  let needs ← keyword fields "dependencies" (named (dependency read))
  let members : List Constraint :=
    if properties.isSome || otherFields.isSome || patterns.isSome then
      [.fields (properties.getD []) (patterns.getD []) (otherFields.getD (.always true))]
    else []
  return members ++ (fieldNames.map Constraint.fieldNames).toList ++ needs.getD []

/-- The constraints of the keywords about items. -/
def itemConstraints (read : Json → Reader m Schema) (fields : List (Text × Json)) : Reader m (List Constraint) := do
  let items ← keyword fields "items" (itemSchemas read)
  let otherItems ← keyword fields "additionalItems" (others read)
  return (items.map (itemsOf (otherItems.getD (.always true)))).toList

/-- The constraints of the keywords that join schemas. -/
def joinConstraints (draft : Draft) (read : Json → Reader m Schema) (fields : List (Text × Json)) :
    Reader m (List Constraint) := do
  let one ← keyword fields "oneOf" (listed read)
  let any ← keyword fields "anyOf" (listed read)
  let all ← keyword fields "allOf" (listed read)
  let no ← keyword fields "not" read
  let test ← keywordIf draft.hasSeven fields "if" read
  let yes ← keywordIf draft.hasSeven fields "then" read
  let other ← keywordIf draft.hasSeven fields "else" read
  return (any.map Constraint.someSchema).toList ++ (one.map Constraint.oneSchema).toList ++
    (all.map Constraint.allSchemas).toList ++ (no.map Constraint.noSchema).toList ++
    (test.map fun t => Constraint.depending t (yes.getD (.always true)) (other.getD (.always true))).toList

/-- The schema of an object of keywords, in which all other schemas are read by `read`. -/
def keywords (draft : Draft) (read : Json → Reader m Schema) (fields : List (Text × Json)) : Reader m Schema := do
  let types ← need (types? (Json.field? fields "type"))
  let members ← memberConstraints draft read fields
  let items ← itemConstraints read fields
  let plain ← need (plain? draft fields)
  let someItem ← keywordIf draft.hasSix fields "contains" read
  let joins ← joinConstraints draft read fields
  return .asks types (joins ++ items ++ (someItem.map Constraint.someItem).toList ++ members ++ plain)

/-! ## references -/

/-- An address from which a document can be loaded. -/
def isLoadable (u : Url) : Bool :=
  if u.scheme == Text.ofString "file" then u.path.head? == some Text.slash
  else !u.scheme.isEmpty && !u.host.isEmpty

/-- Loads a document from an address and enters it. -/
def loaded (load : Loader m) (address : Url) : Reader m Document := do
  if !isLoadable address then throw .unusable
  let body ← (ExceptT.mk (load address) : ExceptT SchemaProblem m Json)
  let (document, library) := (← get).admitLoaded address body
  set library
  return document

/-- What a reference leads to: a document or part that has this address, or the part of a document that its
fragment points to. -/
def referent (load : Loader m) (reference : Url) : Reader m Document := do
  match (← get).document? reference.toText with
  | some document => return document
  | none =>
    let address : Url := { reference with fragment := [] }
    match (← get).document? address.toText with
    | some document =>
      let (part, library) ← need ((← get).part? reference document)
      set library
      return part
    | none =>
      let document ← loaded load address
      return { document with body := ← need (Library.pointed? reference.fragment document.body) }

/-- The most schemas that may be open inside each other, references counted too. -/
abbrev maxLevels : Nat := 100000000

/-- The schema that a value describes; `levels` more may be open inside it. -/
def compile (load : Loader m) (levels : Nat) (draft : Draft) (value : Json) : Reader m Schema :=
  match levels with
  | 0 => throw .unusable
  | levels + 1 =>
    match value with
    | .bool b => if draft.hasSix then pure (.always b) else throw .unusable
    | .object fields => do
      let read := compile load levels draft
      -- these keywords are read for their faults alone
      let _ ← need (keyword? fields (addressKey draft fields) address?)
      let _ ← keyword fields "definitions" (named fun p => read p.2)
      let _ ← need (keyword? fields "title" text?)
      let _ ← need (keyword? fields "description" text?)
      match ← need (keyword? fields "$ref" text?) with
      | none => keywords draft read fields
      | some written =>
        let reference ← need (Url.parse? written)
        let name := reference.toText
        -- a schema may refer to itself: its name is known before the schema is, which ends the reading there
        if (← get).isKnown name then
          let _ ← keywords draft read fields
        else
          modify fun library => library.learn name none
          let document ← referent load reference
          let schema ← compile load levels (document.draft.getD draft) document.body
          modify fun library => library.learn name (some schema)
        return .refers name
    | _ => throw .unusable

/-! ## checking texts -/

/-- A schema with the schemas that it refers to. -/
structure Compiled where
  schema : Schema
  known : List (Text × Schema)

/-- The schema of a document that stands in the library. -/
def ofDocument (load : Loader m) (body : Json) : Reader m Schema := do
  let draft ← need (Draft.of? body)
  compile load maxLevels (draft.getD .mixed) body

/-- The schema that a reading gives, with the schemas that it refers to. -/
def Reader.compiled (reading : Reader m Schema) : m (Except SchemaProblem Compiled) := do
  match ← (reading.run {}).run with
  | .error problem => return .error problem
  | .ok (schema, library) => return .ok ⟨schema, library.known⟩

/-- The schema of a text. Only the first value of it counts. -/
def ofText (load : Loader m) (schemaText : Text) : m (Except SchemaProblem Compiled) :=
  Reader.compiled do
    let (body, _) ← need (Json.first? schemaText)
    let (document, library) ← need ((← get).admit? body)
    set library
    ofDocument load document.body

/-- Checks a document given as text. Only the first value of it counts. `name` is what messages call the
schema. -/
def Compiled.validate (c : Compiled) (name documentText : Text) : Except Fault Unit :=
  match Json.first? documentText with
  | none => .error (.schema name .unusable none)
  | some (document, _) =>
    match c.schema.violations document c.known with
    | [] => .ok ()
    | vs => .error (.invalid vs)

/-- Loads the schemas of schemas, and nothing else. -/
def loadStandard : Loader Id := fun address =>
  match Draft.standard? address.toText with
  | some body => .ok body
  | none => .error .unusable

end CastAudit.Schema
