import CastAudit.Packed
import CastAudit.Scan

/-!
# Cached scans

What the cache keeps of one log, and its packed form: a map of five fields, records and failures being
lists of maps. `Entry.unpack?` reads what `Entry.pack` writes, and any other packing of the same fields.
-/

namespace CastAudit.Cache

/-- The version of the format. Entries of any other version are as good as absent. -/
abbrev schemaVersion : Nat := 1

/-- The outcome of scanning one log. A list that was never gathered is packed as nothing. -/
structure Entry where
  schema : Nat := 0
  records : Option (List Record) := none
  failures : Option (List Failure) := none
  lines : Int := 0
  headers : Int := 0
deriving Repr, BEq, DecidableEq, Inhabited

/-! ## packing -/

def packRecord (r : Record) : Text :=
  Packed.writeMap
    [("kind", Packed.writeInt r.kind.code), ("package_id", Packed.writeText r.packageId),
     ("caller", Packed.writeText r.caller), ("from_type", Packed.writeText r.fromType),
     ("to_type", Packed.writeText r.toType), ("mutability", Packed.writeText r.mutability),
     ("note", Packed.writeText r.note), ("source_location", Packed.writeText r.location),
     ("log_path", Packed.writeText r.logPath), ("line", Packed.writeInt r.line)]

def packFailure (f : Failure) : Text :=
  Packed.writeMap
    [("package_id", Packed.writeText f.packageId), ("log_path", Packed.writeText f.logPath),
     ("line", Packed.writeInt f.line), ("reason", Packed.writeText f.reason)]

def Entry.pack (e : Entry) : Text :=
  Packed.writeMap
    [("Schema", Packed.writeWord e.schema), ("Records", Packed.writeList packRecord e.records),
     ("Failures", Packed.writeList packFailure e.failures), ("Lines", Packed.writeInt e.lines),
     ("Headers", Packed.writeInt e.headers)]

/-! ## unpacking -/

def textField {α : Type} (name : String) (set : α → Text → α) : Packed.FieldReader α :=
  ⟨name, fun a s => (Packed.text? s).map fun p => (set a p.1, p.2)⟩

/-- A field that holds a number. -/
def intField {α : Type} (name : String) (set : α → Int → α) : Packed.FieldReader α :=
  ⟨name, fun a s => (Packed.int? s).map fun p => (set a p.1, p.2)⟩

def recordFields : List (Packed.FieldReader Record) :=
  [intField "kind" fun r n => { r with kind := Kind.ofCode n },
   textField "package_id" fun r t => { r with packageId := t },
   textField "caller" fun r t => { r with caller := t },
   textField "from_type" fun r t => { r with fromType := t },
   textField "to_type" fun r t => { r with toType := t },
   textField "mutability" fun r t => { r with mutability := t },
   textField "note" fun r t => { r with note := t },
   textField "source_location" fun r t => { r with location := t },
   textField "log_path" fun r t => { r with logPath := t },
   intField "line" fun r n => { r with line := n }]

def failureFields : List (Packed.FieldReader Failure) :=
  [textField "package_id" fun f t => { f with packageId := t },
   textField "log_path" fun f t => { f with logPath := t },
   intField "line" fun f n => { f with line := n },
   textField "reason" fun f t => { f with reason := t }]

/-- An entry that is being unpacked. A list that comes twice is read over what stood in its places
before, so all of that is kept. -/
structure Unpacking where
  entry : Entry := {}
  records : List Record := []
  failures : List Failure := []
deriving Inhabited

def Unpacking.withRecords (u : Unpacking) (records : Option (List Record)) : Unpacking :=
  { u with entry.records := records, records := Packed.places u.records records }

def Unpacking.withFailures (u : Unpacking) (failures : Option (List Failure)) : Unpacking :=
  { u with entry.failures := failures, failures := Packed.places u.failures failures }

def entryFields : List (Packed.FieldReader Unpacking) :=
  [⟨"Schema", fun u s => (Packed.word? s).map fun p => ({ u with entry.schema := p.1 }, p.2)⟩,
   ⟨"Records", fun u s =>
      (Packed.list? (Packed.compound? recordFields {}) {} u.records s).map fun p => (u.withRecords p.1, p.2)⟩,
   ⟨"Failures", fun u s =>
      (Packed.list? (Packed.compound? failureFields {}) {} u.failures s).map fun p => (u.withFailures p.1, p.2)⟩,
   intField "Lines" fun u n => { u with entry.lines := n },
   intField "Headers" fun u n => { u with entry.headers := n }]

/-- The entry at the front of a text; what follows it does not matter. -/
def Entry.unpack? (s : Text) : Option Entry :=
  (Packed.compound? entryFields {} {} s).map fun p => p.1.entry

end CastAudit.Cache
