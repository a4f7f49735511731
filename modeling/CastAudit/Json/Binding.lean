import CastAudit.Json.Basic

/-!
# Structures from JSON objects

How an object fills the fields of a structure: names match without regard to case, unknown names are
passed over, of repeated names the last counts, and `null` changes nothing. A value of the wrong type
spoils the result but lets the other fields be read; of several errors the first is told.
-/

namespace CastAudit.Json

/-- Names in one case: the letters of ASCII and the two characters outside it whose other case is an
ASCII letter. -/
def foldName (name : Text) : Text :=
  (Text.pieces name).flatMap fun p =>
    if p.code = 0x17f then [0x73] else if p.code = 0x212a then [0x6b] else Text.lower p.bytes

/-- What reading a field gives. -/
inductive Bound (α : Type) where
  /-- The structure with the field set. -/
  | done (a : α)
  /-- The value has the wrong type. -/
  | mistyped

/-- A field of a structure and how its value is read. An error ends the reading at once. -/
structure Binder (ε α : Type) where
  name : Text
  bind : α → Json → Except ε (Bound α)

/-- A field that holds a text. -/
def textBinder {ε α : Type} (name : String) (set : α → Text → α) : Binder ε α where
  name := name
  bind a
    | string s => .ok (.done (set a s))
    | null => .ok (.done a)
    | _ => .ok .mistyped

/-- A field that holds a signed 64-bit number without fraction or exponent. -/
def intBinder {ε α : Type} (name : String) (set : α → Int → α) : Binder ε α where
  name := name
  bind a
    | number literal =>
      match Text.readInt64 literal with
      | .ok n => .ok (.done (set a n))
      | .error _ => .ok .mistyped
    | null => .ok (.done a)
    | _ => .ok .mistyped

/-- A field that holds a truth value. -/
def boolBinder {ε α : Type} (name : String) (set : α → Bool → α) : Binder ε α where
  name := name
  bind a
    | bool b => .ok (.done (set a b))
    | null => .ok (.done a)
    | _ => .ok .mistyped

/-- The binder of a name: one with the very name, else one with the name in another case. -/
def binderOf? {ε α : Type} (binders : List (Binder ε α)) (name : Text) : Option (Binder ε α) :=
  match binders.find? fun b => b.name == name with
  | some b => some b
  | none => binders.find? fun b => foldName b.name == foldName name

/-- One field of an object: the structure so far and whether all types were right. -/
def bindField {ε α : Type} (binders : List (Binder ε α)) (mistyped : ε) (st : α × Bool) (field : Text × Json) :
    Except ε (α × Bool) :=
  match binderOf? binders field.1 with
  | none => .ok st
  | some b =>
    match b.bind st.1 field.2 with
    | .error e => .error (if st.2 then e else mistyped)
    | .ok (.done a) => .ok (a, st.2)
    | .ok .mistyped => .ok (st.1, false)

/-- A structure filled from a value; `mistyped` is the error for wrong types. -/
def bind {ε α : Type} (binders : List (Binder ε α)) (mistyped : ε) (blank : α) : Json → Except ε α
  | null => .ok blank
  | object fields => do
    let (a, typed) ← fields.foldlM (bindField binders mistyped) (blank, true)
    if typed then .ok a else .error mistyped
  | _ => .error mistyped

end CastAudit.Json
