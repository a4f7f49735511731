import CastAudit.Kind
import CastAudit.Text.Quoted
import CastAudit.Disk.Error
import CastAudit.Csv.Error
import CastAudit.Rule

/-!
# Errors

Every way in which the program can fail is a value of `Fault`: what it was about, what went wrong, and
the fault behind it, if any. `Fault.message` is the one place where faults become words; a fault with
one behind it ends in a colon and the other's message.
-/

namespace CastAudit

/-- What is wrong with a header line. -/
inductive HeaderProblem where
  /-- The kind has no header. -/
  | noGrammar
  /-- The line does not start with the marker of its kind. -/
  | noMarker
  /-- Not exactly one `=>`; `count` were found. -/
  | sides (count : Nat)
  /-- Not three segments before `=>`. With more than three a type name holds `>`. -/
  | segments (count : Nat)
  /-- Neither two nor three segments after the `=>` of a cast. -/
  | results (count : Nat)
  /-- The caller is blank. -/
  | emptyCaller
  /-- No caller in backticks. -/
  | noCaller
  /-- A backtick that is never closed. -/
  | openCaller
  /-- Anything else, in words. -/
  | other (text : Text)
deriving Repr, BEq, DecidableEq, Inhabited

def HeaderProblem.message : HeaderProblem → Text
  | noGrammar => "no header grammar for kind"
  | noMarker => "line does not start with header marker"
  | sides n => "expected one \"=>\" separator, got " ++ Text.ofNat n
  | segments n =>
    "expected 3 source segments, got " ++ Text.ofNat n ++
      (if 3 < n then (": ambiguous '>' in a type name, not fixed by retrying" : Text) else [])
  | results n => "expected 2 or 3 result segments, got " ++ Text.ofNat n
  | emptyCaller => "empty caller"
  | noCaller => "no backtick-quoted caller"
  | openCaller => "unterminated backtick-quoted caller"
  | other t => t

/-- What went wrong with a log. -/
inductive ScanProblem where
  | cannotOpen
  | cannotRead
  | lineTooLong
  | other (text : Text)
deriving Repr, BEq, DecidableEq, Inhabited

/-- The words for a log problem. -/
def ScanProblem.message : ScanProblem → Text
  | cannotOpen => "failed to open log"
  | cannotRead => "failed to read log"
  | lineTooLong => "line exceeds maximum length"
  | other t => t

/-- What went wrong with a listing. -/
inductive ListingProblem where
  | cannotReadRoot
  | badDirectory (name : Text)
  | cannotOpen
  | cannotRead
  /-- A line that is not a package and a path with a comma between. -/
  | badLine (line : Nat)
  | badPackage (line : Nat) (name : Text)
  | other (text : Text)
deriving Repr, BEq, DecidableEq, Inhabited

def ListingProblem.message : ListingProblem → Text
  | cannotReadRoot => "failed to read corpus root"
  | badDirectory n => "invalid package directory " ++ Text.quoted n
  | cannotOpen => "failed to open listing"
  | cannotRead => "failed to read listing"
  | badLine n => "line " ++ Text.ofNat n ++ ": expected \"package,log_path\""
  | badPackage n p => "line " ++ Text.ofNat n ++ ": invalid package " ++ Text.quoted p
  | other t => t

/-- What went wrong with a table or report. -/
inductive TableProblem where
  | cannotOpen
  | cannotRead
  | cannotReadReport
  | other (text : Text)
deriving Repr, BEq, DecidableEq, Inhabited

def TableProblem.message : TableProblem → Text
  | cannotOpen => "failed to open table"
  | cannotRead => "failed to read table"
  | cannotReadReport => "failed to read report"
  | other t => t

/-- What went wrong with a record store or failure list. -/
inductive StoreProblem where
  | cannotMakeDirectory
  | cannotOpenToAppend
  | cannotWriteRecord
  | cannotFlushRecords
  | cannotOpenRecords
  | cannotParseRecords
  /-- A row with an unknown kind, on the line where that field starts. -/
  | badRow (line : Nat)
  | cannotWriteList
  | cannotFlushList
  | cannotOpenList
  | cannotReadList
  | other (text : Text)
deriving Repr, BEq, DecidableEq, Inhabited

def StoreProblem.message : StoreProblem → Text
  | cannotMakeDirectory => "failed to create output directory"
  | cannotOpenToAppend => "failed to open for append"
  | cannotWriteRecord => "failed to write record"
  | cannotFlushRecords => "failed to flush records"
  | cannotOpenRecords => "failed to open records"
  | cannotParseRecords => "failed to parse records"
  | badRow n => "line " ++ Text.ofNat n
  | cannotWriteList => "failed to write failure list"
  | cannotFlushList => "failed to flush failure list"
  | cannotOpenList => "failed to open failure list"
  | cannotReadList => "failed to read failure list"
  | other t => t

/-- What went wrong before a document could be checked. -/
inductive SchemaProblem where
  /-- The schema is none, or the document cannot be read. -/
  | unusable
  /-- A file that is needed is not there. -/
  | missing
  | other (text : Text)
deriving Repr, BEq, DecidableEq, Inhabited

def SchemaProblem.message : SchemaProblem → Text
  | unusable | missing => "could not compile schema or read document"
  | other t => t

/-- A place in a document that breaks its schema. -/
structure Violation where
  field : Text
  message : Text
deriving Repr, BEq, DecidableEq, Inhabited

/-- A failure of the program. -/
inductive Fault where
  /-- Plain words. -/
  | plain (text : Text)
  /-- A context, then the fault inside it. -/
  | within (context : Text) (cause : Fault)
  /-- A refused file operation. -/
  | file (error : Disk.Error)
  /-- A malformed row. -/
  | row (error : Csv.Error)
  /-- A line that reaches the length limit. -/
  | longLine
  /-- A tag that no recognized kind has. -/
  | unknownKind (tag : Text)
  /-- A run that was called off. -/
  | cancelled
  /-- A number that its place cannot hold. -/
  | outOfRange
  /-- A cache file that does not hold an entry. -/
  | undecodable (key : Text)
  /-- A digit run above the 64-bit range. -/
  | bigNumber (digits : Text)
  | header (kind : Kind) (problem : HeaderProblem) (cause : Option Fault)
  | scan (path : Text) (problem : ScanProblem) (cause : Option Fault)
  | profile (name : Text)
  | listing (path : Text) (problem : ListingProblem) (cause : Option Fault)
  | table (path : Text) (problem : TableProblem) (cause : Option Fault)
  | store (path : Text) (problem : StoreProblem) (cause : Option Fault)
  | schema (path : Text) (problem : SchemaProblem) (cause : Option Fault)
  /-- A document that breaks its schema. -/
  | invalid (violations : List Violation)
  /-- Fields that break their rules. -/
  | rules (broken : List BrokenRule)
deriving Repr, BEq, Inhabited

namespace Fault

def violationLines (violations : List Violation) : Text :=
  (violations.zipIdx 1).flatMap fun v =>
    "  " ++ Text.ofNat v.2 ++ ". " ++ v.1.field ++ ": " ++ v.1.message ++ "\n"

def message : Fault → Text
  | plain t => t
  | within c f => c ++ ": " ++ message f
  | file e => e.message
  | row e => e.message
  | longLine => "bufio.Scanner: token too long"
  | unknownKind t => "unknown diagnostic kind " ++ Text.quoted t
  | cancelled => "context canceled"
  | outOfRange => "out of range"
  | undecodable k => "failed to decode cache entry " ++ k
  | bigNumber d => "strconv.ParseInt: parsing " ++ Text.quoted d ++ ": value out of range"
  | header k p c => "parse error: " ++ k.tag ++ " header: " ++ p.message ++ tailOf c
  | scan p m c => "scan error: " ++ p ++ ": " ++ m.message ++ tailOf c
  | profile n => "unknown scan profile " ++ Text.quoted n
  | listing p m c => "listing error: " ++ p ++ ": " ++ m.message ++ tailOf c
  | table p m c => "table error: " ++ p ++ ": " ++ m.message ++ tailOf c
  | store p m c => "store error: " ++ p ++ ": " ++ m.message ++ tailOf c
  | schema p m c => "failed to load schema " ++ p ++ ": " ++ m.message ++ tailOf c
  | invalid vs => "validation failed:\n" ++ violationLines vs
  | rules bs => Text.join "\n" (bs.map BrokenRule.message)
where
  /-- The part of a message that tells the fault behind. -/
  tailOf : Option Fault → Text
    | none => []
    | some f => ": " ++ message f

/-- The fault directly behind a fault. -/
def cause? : Fault → Option Fault
  | within _ f => some f
  | header _ _ c | scan _ _ c | listing _ _ c | table _ _ c | store _ _ c | schema _ _ c => c
  | _ => none

/-- The faults of a chain, from the outermost to the innermost. -/
def chain : Fault → List Fault
  | within c f => within c f :: chain f
  | header k p c => header k p c :: chainOf c
  | scan p m c => scan p m c :: chainOf c
  | listing p m c => listing p m c :: chainOf c
  | table p m c => table p m c :: chainOf c
  | store p m c => store p m c :: chainOf c
  | schema p m c => schema p m c :: chainOf c
  | f => [f]
where
  /-- The faults behind a fault. -/
  chainOf : Option Fault → List Fault
    | none => []
    | some f => chain f

/-- A missing file is at the bottom of the fault. -/
def isMissing (f : Fault) : Bool :=
  f.chain.any fun
    | file e => e.isMissing
    | schema _ problem _ => problem == .missing
    | _ => false

end Fault

end CastAudit
