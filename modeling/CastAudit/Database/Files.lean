import CastAudit.Database
import CastAudit.Disk.Host

/-!
# Database addresses and files

Looks up the services, certificates and keys that an address names. No database is spoken to from here: an
address that makes sense is answered by nobody, any other is refused before that.
-/

namespace CastAudit.Database

open Disk (Host)

variable {m : Type → Type} {Handle : Type} [Monad m] [Host m Handle]

/-- The content of the file that a setting names, if there is one that can be read. -/
def fileOf (c : Connection) (name : String) : m (Option Text) := do
  match c.value? name with
  | none => return none
  | some path =>
    match ← Host.readFile path with
    | .ok content => return some content
    | .error _ => return none

/-- All settings of an address, given those of the environment. A service that is named must be known. -/
def connection (environment : Connection) (address : Text) : m (Option Connection) := do
  match ofAddress? address with
  | none => return none
  | some own =>
    let c := own ++ environment ++ defaults
    match c.value? "service" with
    | none => return some c
    | some name =>
      let file ← fileOf c "servicefile"
      return (file.bind fun f => service? f name).map fun service => own ++ service ++ environment ++ defaults

def keyFiles (c : Connection) : m KeyFiles := do
  return { root := ← fileOf c "sslrootcert", certificate := ← fileOf c "sslcert", key := ← fileOf c "sslkey" }

/-- The address makes sense, given the settings of the environment. -/
def isAddress (environment : Connection) (address : Text) : m Bool := do
  match ← connection environment address with
  | none => return false
  | some c => return isUsable c (← keyFiles c)

/-- Why a run cannot be kept at an address. -/
def refusal (environment : Connection) (address : Text) : m Fault := do
  if ← isAddress environment address then return .plain "failed to ping database"
  else return .plain "failed to connect to database"

end CastAudit.Database
