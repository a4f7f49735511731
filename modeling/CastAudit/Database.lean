import CastAudit.Certificate
import CastAudit.Duration
import CastAudit.Fault
import CastAudit.Internet
import CastAudit.Path
import CastAudit.Text.Blank
import CastAudit.Text.Lines
import CastAudit.Url

/-!
# Database addresses

Runs can be kept in a database. Its address is a URL or a list of `keyword=value` settings; what it does
not set comes from a service that it names, from the environment, or has a default. Services stand in a file
of their own, and so do the certificates and keys of an encrypted connection. Whether an address makes sense
is decided here from the settings and these files.
-/

namespace CastAudit.Database

/-- The settings of a connection. Of two settings of one name the first counts. -/
abbrev Connection := List (Text × Text)

def Connection.value? (c : Connection) (name : String) : Option Text := List.lookup (Text.ofString name) c

/-- The value of a setting, empty if there is none. -/
def Connection.value (c : Connection) (name : String) : Text := (c.value? name).getD []

def settingName (name : Text) : Text := if name == Text.ofString "dbname" then "database" else name

/-! ## URLs -/

/-- A host with its port number, either of which may be empty. -/
def hostAndPort? (s : Text) : Option (Text × Text) := do
  let (front, port) ← Url.cutLast? s 0x3a
  let host ←
    if front.head? == some 0x5b then
      if front.getLast? == some 0x5d then some (front.drop 1).dropLast else none
    else if front.contains 0x3a then none else some front
  if (host ++ port).contains 0x5b || (host ++ port).contains 0x5d then none else some (host, port)

/-- One part of an authority: a host with its port number. -/
def authorityPart? (s : Text) : Option (Text × Text) :=
  let bare := Text.dropAround s fun b => b = 0x5b || b = 0x5d
  if !s.contains 0x3a || Internet.isLongAddress bare then some (bare, []) else hostAndPort? s

/-- A setting, left out when it is empty. -/
def filled (name value : Text) : Connection := if value.isEmpty then [] else [(name, value)]

/-- The settings of a query. Parts that cannot be unescaped are passed over. -/
def ofQuery (query : Text) : Connection :=
  (Text.splitOn query "&").filterMap fun part => do
    if part.isEmpty || part.contains 0x3b then none
    let (name, value) := (Text.cut? part "=").getD (part, [])
    let name ← Url.unescape? .query name
    let value ← Url.unescape? .query value
    some (settingName name, value)

def ofUrl? (s : Text) : Option Connection := do
  let url ← Url.parse? s
  let parts ← ((Text.splitOn url.host ",").filter fun p => !p.isEmpty).mapM authorityPart?
  let named (f : Text × Text → Text) : Text := Text.join "," ((parts.map f).filter fun t => !t.isEmpty)
  some (ofQuery url.query ++ filled "host" (named Prod.fst) ++ filled "port" (named Prod.snd) ++
    filled "database" (url.path.dropWhile (· = Text.slash)))

/-! ## keywords -/

/-- A blank between settings. -/
def isSettingBlank (b : UInt8) : Bool := Text.isLineBlank b || b = 0x0b || b = 0x0c

/-- The text without the backslashes before backslashes, then without those before apostrophes. -/
def dropEscapes (s : Text) : Text :=
  Text.join "'" (Text.splitOn (Text.join "\\" (Text.splitOn s "\\\\")) "\\'")

/-- A value without quotes, last first, and the rest after the blank that ends it. -/
def plainValue? (seen : Text) : Text → Option (Text × Text)
  | [] => some (seen, [])
  | [b] => if b = Text.backslash then none else some (if isSettingBlank b then seen else b :: seen, [])
  | a :: b :: rest =>
    if a = Text.backslash then plainValue? (b :: a :: seen) rest
    else if isSettingBlank a then some (seen, b :: rest)
    else plainValue? (a :: seen) (b :: rest)

/-- A value in quotes, last first, and the rest after the closing one. -/
def quotedValue? (seen : Text) : Text → Option (Text × Text)
  | [] | [0x5c] => none
  | 0x5c :: b :: rest => quotedValue? (b :: 0x5c :: seen) rest
  | b :: rest => if b = 0x27 then some (seen, rest) else quotedValue? (b :: seen) rest

/-- A value and the rest after it. -/
def value? (s : Text) : Option (Text × Text) :=
  match s with
  | [] => some ([], [])
  | b :: rest =>
    (if b = 0x27 then quotedValue? [] rest else plainValue? [] s).map fun v => (dropEscapes v.1.reverse, v.2)

/-- The settings of a list of keywords after those already read. Every setting takes at least its `=`. -/
def ofWordsFrom (fuel : Nat) (c : Connection) (s : Text) : Option Connection :=
  match fuel with
  | 0 => some c
  | fuel + 1 =>
    if s.isEmpty then some c
    else do
      let (name, rest) ← Text.cut? s "="
      let name := Text.dropAround name isSettingBlank
      let (value, rest) ← value? (rest.dropWhile isSettingBlank)
      if name.isEmpty then none else ofWordsFrom fuel ((settingName name, value) :: c) rest

/-- The settings of a list of keywords. -/
def ofWords? (s : Text) : Option Connection := ofWordsFrom (s.length + 1) [] s

/-! ## services -/

/-- A file of services: each a name with its settings, those of a name that comes again first. -/
abbrev Services := List (Text × Connection)

/-- The services with one more line. Lines before the first name and lines without `=` are errors. -/
def addLine? (services : Services) (line : Text) : Option Services :=
  let line := Text.trim line
  if line.isEmpty || line.head? == some 0x23 then some services
  else if line.head? == some 0x5b && line.getLast? == some 0x5d then some ((line.tail.dropLast, []) :: services)
  else match services, Text.cut? line "=" with
    | (name, c) :: rest, some (setting, value) =>
      some ((name, (settingName (Text.trim setting), Text.trim value) :: c) :: rest)
    | _, _ => none

def service? (file name : Text) : Option Connection := do
  let lines := Lines.read Lines.narrow file
  let services ← lines.lines.foldlM addLine? []
  if lines.tooLong then none else services.lookup name

/-! ## rules -/

/-- The setting is a whole number between two bounds, or is not there. -/
def isWhole (c : Connection) (name : String) (least most : Int) : Bool :=
  match c.value? name with
  | none => true
  | some v =>
    match Text.readInt64 v with
    | .ok n => least ≤ n && n ≤ most
    | .error _ => false

/-- The setting is a whole number of 32 bits, or is not there. -/
def isShort (c : Connection) (name : String) : Bool := isWhole c name (-0x80000000) 0x7fffffff

/-- The setting is a duration, or is not there. -/
def isDuration (c : Connection) (name : String) : Bool :=
  (c.value? name).all fun v => (Duration.nanoseconds? v).isSome

def isPort (s : Text) : Bool := Text.isDigits s && 1 ≤ Text.digitsValue s && Text.digitsValue s < 65536

def isOneOf (value : Text) (words : List String) : Bool := words.any fun w => Text.ofString w == value

/-- The ways to encrypt a connection. -/
def encryptionModes : List String := ["", "disable", "allow", "prefer", "require", "verify-ca", "verify-full"]

/-- The files of an encrypted connection, none where one is not named or cannot be read. -/
structure KeyFiles where
  root : Option Text := none
  certificate : Option Text := none
  key : Option Text := none
deriving Repr, BEq, DecidableEq, Inhabited

/-- The certificates that are trusted can be had, if there are any. -/
def hasRoot (c : Connection) (files : KeyFiles) : Bool :=
  let root := c.value "sslrootcert"
  root.isEmpty || isOneOf root ["system"] || files.root.any Certificate.isCertificateFile

/-- The own certificate and its key can be had, if they are named. -/
def hasOwn (c : Connection) (files : KeyFiles) : Bool :=
  if (c.value "sslcert").isEmpty && (c.value "sslkey").isEmpty then true
  else match files.certificate, files.key with
    | some certificate, some key => Certificate.isKeyPair certificate key
    | _, _ => false

/-- The encryption that is asked for can be had. The certificates of the system ask for the strictest way,
whatever else is asked for. -/
def canEncrypt (c : Connection) (files : KeyFiles) : Bool :=
  let mode : Text := if isOneOf (c.value "sslrootcert") ["system"] then "verify-full" else c.value "sslmode"
  hasRoot c files && isOneOf mode encryptionModes && (isOneOf mode ["disable"] || hasOwn c files)

/-- A host that is a directory of sockets: a path from the root, or one with a drive letter. -/
def isDirectory (host : Text) : Bool :=
  match host with
  | drive :: 0x3a :: 0x5c :: _ => 0x41 ≤ drive && drive ≤ 0x5a
  | _ => Path.isAbsolute host

/-- Every host has a port, and an encryption unless it is a directory of sockets. -/
def hostsFit (c : Connection) (files : KeyFiles) : Bool :=
  let ports := Text.splitOn (c.value "port") ","
  ((Text.splitOn (c.value "host") ",").zipIdx).all fun (host, i) =>
    isPort (ports.getD i (ports.headD [])) && (isDirectory host || canEncrypt c files)

/-- The settings make sense together. -/
def isUsable (c : Connection) (files : KeyFiles) : Bool :=
  isWhole c "connect_timeout" 0 Text.maxInt64 && hostsFit c files &&
    isOneOf (c.value "target_session_attrs")
      ["any", "read-write", "read-only", "primary", "standby", "prefer-standby"] &&
    isShort c "statement_cache_capacity" && isShort c "description_cache_capacity" &&
    isOneOf ((c.value? "default_query_exec_mode").getD "exec")
      ["cache_statement", "cache_describe", "describe_exec", "exec", "simple_protocol"] &&
    isWhole c "pool_max_conns" 1 0x7fffffff && isShort c "pool_min_conns" && isShort c "pool_min_idle_conns" &&
    isDuration c "pool_max_conn_lifetime" && isDuration c "pool_max_conn_idle_time" &&
    isDuration c "pool_health_check_period" && isDuration c "pool_max_conn_lifetime_jitter"

/-! ## addresses -/

/-- The settings that nobody makes. -/
def defaults : Connection := [("host", "/tmp"), ("port", "5432"), ("target_session_attrs", "any")]

/-- The environment variables that make settings. -/
def variableNames : List (Text × Text) :=
  [("PGHOST", "host"), ("PGPORT", "port"), ("PGCONNECT_TIMEOUT", "connect_timeout"), ("PGSSLMODE", "sslmode"),
   ("PGSSLKEY", "sslkey"), ("PGSSLCERT", "sslcert"), ("PGSSLROOTCERT", "sslrootcert"),
   ("PGTARGETSESSIONATTRS", "target_session_attrs"), ("PGSERVICE", "service"),
   ("PGSERVICEFILE", "servicefile")]

def isUrl (address : Text) : Bool :=
  Text.startsWith address "postgres://" || Text.startsWith address "postgresql://"

/-- The settings that an address makes itself. -/
def ofAddress? (address : Text) : Option Connection :=
  if isUrl address then ofUrl? address else ofWords? address

end CastAudit.Database
