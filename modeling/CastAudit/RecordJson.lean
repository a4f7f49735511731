import CastAudit.Fault
import CastAudit.Json.Binding
import CastAudit.Json.Printer
import CastAudit.Json.Reader
import CastAudit.Record

/-!
# Records as JSON

A record as a JSON object. Fields that may be empty are left out when they are; the kind is written as
its tag, and a tag that no recognized kind has is refused.
-/

namespace CastAudit.Record

def jsonFields (r : Record) : List (Text × Json) :=
  [Json.textField "kind" r.kind.tag, Json.textField "package_id" r.packageId, Json.textField "caller" r.caller] ++
  Json.filledText "from_type" r.fromType ++ Json.filledText "to_type" r.toType ++
  Json.filledText "mutability" r.mutability ++ Json.filledText "note" r.note ++
  [Json.textField "source_location" r.location] ++ Json.filledText "log_path" r.logPath ++
  Json.filledInt "line" r.line

def toJson (r : Record) : Json := .object r.jsonFields

/-- Why a JSON text is no record. -/
inductive JsonError where
  /-- It is no JSON text, or a field has the wrong type. -/
  | malformed
  /-- The tag belongs to no recognized kind. -/
  | unknownKind (tag : Text)
deriving Repr, BEq, DecidableEq, Inhabited

/-- What is reported of a text that is no record. A malformed text is reported without words of its own. -/
def JsonError.fault? : JsonError → Option Fault
  | malformed => none
  | unknownKind tag => some (.unknownKind tag)

/-- The kind of a record: a known tag, or nothing else. -/
def kindBinder : Json.Binder JsonError Record where
  name := "kind"
  bind r
    | .string tag =>
      match Kind.ofTag? tag with
      | some kind => .ok (.done { r with kind })
      | none => .error (.unknownKind tag)
    | .null => .error (.unknownKind [])
    | _ => .error .malformed

/-- The fields of a record and how they are read. -/
def binders : List (Json.Binder JsonError Record) :=
  [kindBinder,
   Json.textBinder "package_id" fun r t => { r with packageId := t },
   Json.textBinder "caller" fun r t => { r with caller := t },
   Json.textBinder "from_type" fun r t => { r with fromType := t },
   Json.textBinder "to_type" fun r t => { r with toType := t },
   Json.textBinder "mutability" fun r t => { r with mutability := t },
   Json.textBinder "note" fun r t => { r with note := t },
   Json.textBinder "source_location" fun r t => { r with location := t },
   Json.textBinder "log_path" fun r t => { r with logPath := t },
   Json.intBinder "line" fun r n => { r with line := n }]

def encode (r : Record) : Text := r.toJson.compact

def decode (text : Text) : Except JsonError Record :=
  match Json.parse? text with
  | some value => Json.bind binders .malformed {} value
  | none => .error .malformed

end CastAudit.Record
