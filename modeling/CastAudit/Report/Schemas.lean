import CastAudit.Json.Reader
import CastAudit.Report
import CastAudit.Schema.Check

/-!
# Schemas of the reports

What every report promises: which fields it has, of which types, and how small its numbers can be. No
report has any other field.
-/

namespace CastAudit.Report

/-- A whole number from a least value on. -/
def wholeFrom (least : Int) : Schema := .asks [.integer] [.limit .atLeast ⟨least, 0⟩]

def anyText : Schema := .asks [.string] []

def filledText : Schema := .asks [.string] [.length .atLeast 1]

def wordOf (words : List Text) : Schema := .asks [.string] [.oneOf (words.map Json.string)]

def listOf (schema : Schema) : Schema := .asks [.array] [.items schema]

/-- An object with the named fields and no others. -/
def closedObject (required : List String) (fields : List (String × Schema)) : Schema :=
  .asks [.object]
    [.required (required.map Text.ofString),
     .fields (fields.map fun f => (Text.ofString f.1, f.2)) [] (.always false)]

def scanSchema : Schema :=
  closedObject
    ["profile", "packages", "logs", "scanned", "cached", "missing", "records", "failures", "lines", "headers"]
    [("profile", wordOf ["cast", "transmute", "lint", "bugs"]),
     ("run_id", .asks [.string] [.format "uuid"]), ("packages", wholeFrom 0), ("logs", wholeFrom 0),
     ("scanned", wholeFrom 0), ("cached", wholeFrom 0), ("missing", wholeFrom 0), ("records", wholeFrom 0),
     ("failures", wholeFrom 0), ("failed_logs", wholeFrom 0), ("lines", wholeFrom 0), ("headers", wholeFrom 0)]

/-- A pattern of a frequency table. -/
def patternSchema : Schema :=
  closedObject ["kind"]
    [("kind", wordOf (Kind.recognized.map Kind.tag)), ("from_type", anyText), ("to_type", anyText)]

/-- A frequency table of patterns. -/
def patternsSchema : Schema :=
  closedObject ["total", "patterns"]
    [("total", wholeFrom 0),
     ("patterns", listOf (closedObject ["key", "count"] [("key", patternSchema), ("count", wholeFrom 1)]))]

def rankedSchema : Schema :=
  closedObject ["rank", "canonical_id", "version", "stars"]
    [("rank", wholeFrom 1), ("canonical_id", filledText), ("version", anyText), ("stars", wholeFrom 0),
     ("findings", wholeFrom 0)]

def packageSchema : Schema :=
  closedObject ["name"] [("name", filledText), ("version", anyText), ("popularity", wholeFrom 0)]

def rankingSchema : Schema :=
  closedObject ["ranked"] [("ranked", listOf rankedSchema), ("packages", listOf packageSchema)]

/-- The marked lines of a corpus. -/
def markersSchema : Schema :=
  closedObject ["packages", "cast_total", "transmute_total", "missing"]
    [("packages", listOf (closedObject ["package_id", "cast", "transmute"]
       [("package_id", filledText), ("cast", wholeFrom 0), ("transmute", wholeFrom 0)])),
     ("cast_total", wholeFrom 0), ("transmute_total", wholeFrom 0), ("missing", wholeFrom 0)]

def schemaName : Report → Text
  | scan _ => "scan_summary"
  | patterns _ _ => "pattern_report"
  | ranking _ _ => "ranked_packages"
  | markers _ _ _ _ => "marker_summary"

def schemaPath (r : Report) : Text := "schemas/" ++ r.schemaName ++ ".schema.json"

def schema : Report → Schema
  | scan _ => scanSchema
  | patterns _ _ => patternsSchema
  | ranking _ _ => rankingSchema
  | markers _ _ _ _ => markersSchema

def schemaNamed? (name : Text) : Option Schema :=
  [(Text.ofString "scan_summary", scanSchema), ("pattern_report", patternsSchema),
   ("ranked_packages", rankingSchema), ("marker_summary", markersSchema)].lookup name

/-- Checks a document given as text against a schema. -/
def validateText (schema : Schema) (documentText : Text) : Except Fault Unit :=
  match Json.first? documentText with
  | some (document, _) =>
    match schema.violations document with
    | [] => .ok ()
    | vs => .error (.invalid vs)
  | none => .error (.schema "(string schema)" .unusable none)

end CastAudit.Report
