import CastAudit.Schema
import CastAudit.Schema.Draft

/-!
# Documents that schemas refer to

Schemas refer to each other by address. A document has the address it was loaded from, and every part of it
that has an address of its own can be referred to by that. `Library.admit?` enters a document with all its
parts and makes the references in it whole; `Library.part?` finds what a reference leads to.
-/

namespace CastAudit.Schema

/-- A document, or the part of one, with the version that it is written in if one is named. -/
structure Document where
  body : Json
  draft : Option Draft
deriving Inhabited

/-- What is known of documents and schemas while they are read, the latest first. -/
structure Library where
  /-- The documents by address. -/
  documents : List (Text × Document) := []
  /-- The schemas that were referred to, by reference; none as long as one is still read. -/
  schemas : List (Text × Option Schema) := []
deriving Inhabited

/-! ## addresses -/

/-- The address that a reference stands for inside the document at an address, whose fragment does not
count. Without a scheme of that address the reference stays as it is. -/
def within? (base reference : Url) : Option Url :=
  if base.scheme.isEmpty then some reference
  else Url.parse? (({ base with fragment := [], writtenFragment := [] } : Url).resolve reference).toText

/-- The address that a part of a document gives itself, given the one around it. -/
def ownAddress? (base : Url) (fields : List (Text × Json)) : Option Url :=
  match (Json.field? fields "id").or (Json.field? fields "$id") with
  | some (.string written) => (Url.parse? written).bind (within? base)
  | _ => none

/-- The field of a reference with its whole address. -/
def wholeReference (base : Url) (field : Text × Json) : Text × Json :=
  match field.2 with
  | .string written =>
    if field.1 == Text.ofString "$ref" then
      match (Url.parse? written).bind (within? base) with
      | some u => (field.1, .string u.toText)
      | none => field
    else field
  | _ => field

/-- A field whose value is no schema. -/
def isLiteralField (name : Text) : Bool := ["const", "enum"].any fun n => Text.ofString n == name

/-- A field whose value has schemas for fields. -/
def isSchemaMap (name : Text) : Bool :=
  ["properties", "dependencies", "patternProperties"].any fun n => Text.ofString n == name

/-! ## entering documents -/

abbrev Shelf := List (Text × Document)

/-- The shelf with a document at an address, in place of any other there. -/
def Shelf.put (shelf : Shelf) (address : Text) (document : Document) : Shelf :=
  (address, document) :: shelf.filter fun d => d.1 != address

mutual

/-- A value with whole references, and the shelf with all parts of it that have an address. A part whose
address is taken is left as it is. -/
def settle (draft : Option Draft) (base : Url) (shelf : Shelf) : Json → Json × Shelf
  | .array items =>
    let (items, shelf) := settleItems draft base shelf items
    (.array items, shelf)
  | .object fields =>
    match ownAddress? base fields with
    | none =>
      let (settled, shelf) := settleFields draft base shelf fields
      (.object settled, shelf)
    | some own =>
      let address := own.toText
      if (shelf.lookup address).isSome then (.object fields, shelf)
      else
        -- the address is taken while the parts are settled, so that a part with the same one is left alone
        let (settled, shelf) := settleFields draft own (shelf.put address ⟨.object fields, draft⟩) fields
        (.object settled, shelf.put address ⟨.object settled, draft⟩)
  | value => (value, shelf)

/-- The items of an array, settled. -/
def settleItems (draft : Option Draft) (base : Url) (shelf : Shelf) : List Json → List Json × Shelf
  | [] => ([], shelf)
  | item :: rest =>
    let (item, shelf) := settle draft base shelf item
    let (rest, shelf) := settleItems draft base shelf rest
    (item :: rest, shelf)

/-- The fields of an object, settled. -/
def settleFields (draft : Option Draft) (base : Url) (shelf : Shelf) :
    List (Text × Json) → List (Text × Json) × Shelf
  | [] => ([], shelf)
  | (name, value) :: rest =>
    let (value, shelf) :=
      if isLiteralField name then (value, shelf)
      else if isSchemaMap name then settleMap draft base shelf value
      else settle draft base shelf value
    let (rest, shelf) := settleFields draft base shelf rest
    (wholeReference base (name, value) :: rest, shelf)

/-- The value of a field that has schemas for fields, settled. -/
def settleMap (draft : Option Draft) (base : Url) (shelf : Shelf) : Json → Json × Shelf
  | .object fields =>
    let (fields, shelf) := settleValues draft base shelf fields
    (.object fields, shelf)
  | value => (value, shelf)

/-- The values of fields, settled. -/
def settleValues (draft : Option Draft) (base : Url) (shelf : Shelf) :
    List (Text × Json) → List (Text × Json) × Shelf
  | [] => ([], shelf)
  | (name, value) :: rest =>
    let (value, shelf) := settle draft base shelf value
    let (rest, shelf) := settleValues draft base shelf rest
    ((name, value) :: rest, shelf)

end

/-- The address that a document gives itself is taken. -/
def isTaken (base : Url) (shelf : Shelf) : Json → Bool
  | .object fields => (ownAddress? base fields).any fun own => (shelf.lookup own.toText).isSome
  | _ => false

namespace Library

/-- The library with a document at an address, its references made whole, and the document as it was
entered. If the address that the document gives itself is taken, its references stay as they are. -/
def enter (library : Library) (base : Url) (draft : Option Draft) (body : Json) : Document × Library :=
  let (settled, shelf) :=
    if isTaken base library.documents body then (body, library.documents)
    else settle draft base library.documents body
  let document : Document := ⟨settled, draft⟩
  (document, { library with documents := Shelf.put shelf base.toText document })

/-- The library with a first document, which has no address, and the document as it was entered. -/
def admit? (library : Library) (body : Json) : Option (Document × Library) := do
  let draft ← Draft.of? body
  let body := body.tidy id
  if isTaken {} library.documents body then none
  some (library.enter {} draft body)

/-- The library with a document that is loaded from an address, and the document as it was entered. A
document that is no schema is not entered. -/
def admitLoaded (library : Library) (base : Url) (body : Json) : Document × Library :=
  match Draft.of? body with
  | some draft => library.enter base draft (body.tidy id)
  | none => (⟨body.tidy id, none⟩, library)

/-! ## pointers -/

/-- A step of a pointer: a slash and a tilde are written with a tilde. -/
def stepOf (written : Text) : Text :=
  Text.join "~" (Text.splitOn (Text.join "/" (Text.splitOn written "~1")) "~0")

/-- What some steps lead to: the value of a name or the item at an index. -/
def follow? : List Text → Json → Option Json
  | [], value => some value
  | step :: steps, .object fields => (Json.field? fields (stepOf step)).bind (follow? steps)
  | step :: steps, .array items =>
    match Text.readInt64 step with
    | .ok n => if n < 0 then none else (items[n.toNat]?).bind (follow? steps)
    | .error _ => none
  | _, _ => none

/-- The part of a document that a fragment points to. One that does not start with a slash points to all
of it. -/
def pointed? (fragment : Text) (body : Json) : Option Json :=
  match Text.splitOn fragment "/" with
  | [] :: steps => follow? steps body
  | _ => some body

/-- The document at an address, or the part of one. -/
def document? (library : Library) (address : Text) : Option Document := library.documents.lookup address

/-- The part of a document that a reference with a fragment leads to, and the library that knows it by
that reference. -/
def part? (library : Library) (reference : Url) (document : Document) : Option (Document × Library) := do
  let part : Document := { document with body := ← pointed? reference.fragment document.body }
  some (part, { library with documents := Shelf.put library.documents reference.toText part })

/-! ## schemas -/

/-- The schema of a reference is read or being read. -/
def isKnown (library : Library) (reference : Text) : Bool := (library.schemas.lookup reference).isSome

/-- The library with the schema of a reference; none while it is read. -/
def learn (library : Library) (reference : Text) (schema : Option Schema) : Library :=
  { library with schemas := (reference, schema) :: library.schemas.filter fun s => s.1 != reference }

/-- The schemas that were read to their end. -/
def known (library : Library) : List (Text × Schema) :=
  library.schemas.filterMap fun s => s.2.map fun schema => (s.1, schema)

end Library

end CastAudit.Schema
