import CastAudit.Disk.Host
import CastAudit.Schema.Compile

/-!
# Schema files

Schemas are looked up by a relative path from the working directory and from the two directories above
it, and documents are checked against schemas in files. A schema file can refer to others by address.
-/

namespace CastAudit.Schema

open Disk (Host)

variable {m : Type → Type} {Handle : Type} [Monad m] [Host m Handle]

def absolute (path : Text) : m (Except Disk.Error Text) := do
  if Path.isAbsolute path then return .ok (Path.clean path)
  match ← Host.workingDirectory with
  | .error e => return .error e
  | .ok here => return .ok (Path.join [here, path])

/-- The absolute form of a path at which something stands. -/
def existing (path : Text) : m (Except Fault Text) := do
  match ← absolute path with
  | .error e => return .error (.within ("failed to resolve " ++ path) (.file e))
  | .ok whole =>
    match ← Host.inspect whole with
    | .error _ => return .error (.plain ("file not found: " ++ whole))
    | .ok _ => return .ok whole

/-- The first path of a list at which something stands. -/
def firstExisting : List Text → m (Option Text)
  | [] => return none
  | path :: rest => do
    match ← existing path with
    | .ok whole => return some whole
    | .error _ => firstExisting rest

/-- The absolute path of a schema, looked for here and in the two directories above. -/
def resolve (path : Text) : m (Option Text) :=
  firstExisting [path, Path.join ["..", path], Path.join ["..", "..", path]]

/-! ## loading -/

def addressOf? (path : Text) : Option Url := Url.parse? ("file://" ++ path)

def pathOf? (address : Url) : Option Text :=
  Url.unescape? .query (Text.chopPrefix { address with fragment := [] : Url }.toText "file://")

/-- The content of the file at an address. -/
def readAddress (address : Url) : m (Except SchemaProblem Text) := do
  match pathOf? address with
  | none => return .error .unusable
  | some path =>
    match ← Host.readFile path with
    | .error e => return .error (if e.isMissing then .missing else .unusable)
    | .ok text => return .ok text

/-- Loads documents from files, and the schemas of schemas. -/
def loadFile : Loader m := fun address => do
  if address.scheme != Text.ofString "file" then return loadStandard address
  match ← readAddress address with
  | .error problem => return .error problem
  | .ok text =>
    match Json.first? text with
    | some (body, _) => return .ok body
    | none => return .error .unusable

/-- The schema of a file, whose absolute path is known. -/
def ofFile (path : Text) : m (Except SchemaProblem Compiled) :=
  Reader.compiled do
    let address ← need (addressOf? path)
    let document ← referent loadFile address
    ofDocument loadFile document.body

/-! ## checking files -/

/-- Checks a document given as text against a schema file, whose absolute path is known. -/
def validateAgainst (schemaPath : Text) (document : m (Except SchemaProblem Text)) : m (Except Fault Unit) := do
  match ← ofFile schemaPath with
  | .error problem => return .error (.schema schemaPath problem none)
  | .ok c =>
    match ← document with
    | .error problem => return .error (.schema schemaPath problem none)
    | .ok text => return c.validate schemaPath text

/-- Checks a document given as text against a schema given as text, which can refer to files. `name` is what
messages call the schema. -/
def validateTexts (name schemaText documentText : Text) : m (Except Fault Unit) := do
  match ← ofText loadFile schemaText with
  | .error problem => return .error (.schema name problem none)
  | .ok c => return c.validate name documentText

/-- Checks a document against a schema file. -/
def validateDocument (schemaPath : Text) (document : Json) : m (Except Fault Unit) := do
  match ← existing schemaPath with
  | .error e => return .error (.within "schema" e)
  | .ok whole => validateAgainst whole (return .ok document.compact)

/-- Checks a document file against a schema file. -/
def validateFiles (schemaPath documentPath : Text) : m (Except Fault Unit) := do
  match ← existing schemaPath with
  | .error e => return .error (.within "schema" e)
  | .ok wholeSchema =>
    match ← existing documentPath with
    | .error e => return .error (.within "document" e)
    | .ok wholeDocument =>
      validateAgainst wholeSchema do
        match addressOf? wholeDocument with
        | none => return .error .unusable
        | some address => readAddress address

end CastAudit.Schema
