import CastAudit.Cache.Entry
import CastAudit.Cache.Recent
import CastAudit.Disk.Host

/-!
# The scan cache

Results of scanning a log, kept by a key made from the profile, the package, the path and the content.
A cache has a bounded memory and, if it has a directory, one file per key below it; a file is written
under another name first and then renamed, so no reader sees half of one.
-/

namespace CastAudit

/-- A cache. Without a directory it lives in memory only. -/
structure Cache where
  directory : Text
  recent : Cache.Recent Cache.Entry
deriving Repr, BEq, Inhabited

namespace Cache

open Disk (Host)

variable {m : Type → Type} {Handle : Type} [Monad m] [Host m Handle]

/-- The capacity of a memory when none is asked for. -/
abbrev defaultCapacity : Nat := 1024

/-- The text that is digested to a key. -/
def keyInput (profile packageId logPath content : Text) : Text :=
  [profile, packageId, logPath].flatMap (· ++ [0]) ++ content

/-- The key of a log's scan. -/
def key (profile packageId logPath content : Text) : Text :=
  Text.hexBytes (Digest.sha256 (keyInput profile packageId logPath content))

def folder (directory : Text) : Text := Path.join [directory, "scans"]

def fileOf (directory key : Text) : Text := Path.join [directory, "scans", key ++ ".mp"]

/-- Opens a cache, making its directory. -/
def openAt (directory : Text) (capacity : Int) : m (Except Fault Cache) := do
  let cache : Cache := ⟨directory, { capacity := if capacity ≤ 0 then defaultCapacity else capacity.toNat }⟩
  if directory.isEmpty then return .ok cache
  match ← Disk.makeDirectories (folder directory) with
  | .ok () => return .ok cache
  | .error e => return .error (.within ("failed to create cache directory " ++ directory) (.file e))

/-! ## what the users of a cache share -/

/-- The memory that the users of one cache share, and the lock on its files. -/
class Shared (m : Type → Type) where
  /-- The entry that the memory has for a key, which is then the most recently used one. -/
  fetch : Text → m (Option Entry)
  /-- Takes an entry into the memory. -/
  keep : Text → Entry → m Unit
  /-- Runs a program while no other user of the cache reads or writes its files. -/
  exclusively : {α : Type} → m α → m α

/-- A memory with a single user. -/
instance {m : Type → Type} [Monad m] : Shared (StateT (Recent Entry) m) where
  fetch key := modifyGet fun r => (r.value? key, (r.value? key).elim r (r.touch key))
  keep key entry := modify (·.touch key entry)
  exclusively program := program

section Shared

variable [Shared m]

/-- The entry of a key in the cache with a directory. Entries of another version count as absent; an entry
found on disk is taken into memory. -/
def lookUp (directory key : Text) : m (Except Fault (Option Entry)) := do
  match ← Shared.fetch key with
  | some e => return .ok (some e)
  | none =>
    if directory.isEmpty then return .ok none
    match ← Host.readFile (fileOf directory key) with
    | .error e => return if e.isMissing then .ok none else .error (.file e)
    | .ok bytes =>
      match Entry.unpack? bytes with
      | none => return .error (.undecodable key)
      | some e =>
        if e.schema = schemaVersion then
          Shared.keep key e
          return .ok (some e)
        else return .ok none

/-- Writes a file under another name first and then gives it its own. -/
def save (target bytes : Text) : m (Except Fault Unit) := do
  match ← Host.writeTemporary (Path.directory target) "tmp-" bytes with
  | .error e => return .error (.file e)
  | .ok source =>
    match ← Host.rename source target with
    | .ok () => return .ok ()
    | .error e =>
      Host.removeFile source
      return .error (.file e)

/-- Stores an entry under a key, with the current version: in memory at once, then on disk. -/
def store (directory key : Text) (entry : Entry) : m (Except Fault Unit) := do
  let entry := { entry with schema := schemaVersion }
  Shared.keep key entry
  if directory.isEmpty then return .ok ()
  Shared.exclusively (save (fileOf directory key) entry.pack)

end Shared

/-! ## a cache with a single user -/

/-- Runs a program on the memory of a cache. -/
def serve {α : Type} (c : Cache) (program : StateT (Recent Entry) m α) : m (α × Cache) := do
  let (a, recent) ← program.run c.recent
  return (a, { c with recent })

/-- The entry of a key and the cache after the look-up. -/
def get (c : Cache) (key : Text) : m (Except Fault (Option Entry) × Cache) := c.serve (lookUp c.directory key)

/-- Stores an entry under a key. -/
def put (c : Cache) (key : Text) (entry : Entry) : m (Except Fault Unit × Cache) :=
  c.serve (store c.directory key entry)

/-- The number of entries in memory. -/
def size (c : Cache) : Nat := c.recent.items.length

end Cache

end CastAudit
