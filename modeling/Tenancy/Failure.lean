import Tenancy.Text.Quoted

/-!
# Failures

Everything that can go wrong, by cause. `Failure.message` is the wording, and the only place that
has one: code that fails names the cause. Failures of statements also say which statement was sent
and, where the server reported it, where in the statement it went wrong.
-/

namespace Tenancy
open Text

/-! ## Addresses -/

/-- Why a URL cannot be read. -/
inductive UrlFault where
  | emptyHost
  | portNumber
  | domainCharacter
  | internationalName
  | ipv4
  | ipv6
  | noScheme
  deriving DecidableEq, Repr

def UrlFault.message : UrlFault → String
  | .emptyHost => "empty host"
  | .portNumber => "invalid port number"
  | .domainCharacter => "invalid domain character"
  | .internationalName => "invalid international domain name"
  | .ipv4 => "invalid IPv4 address"
  | .ipv6 => "invalid IPv6 address"
  | .noScheme => "relative URL without a base"

/-- Why a connection descriptor does not name a database. -/
inductive DescriptorFault where
  | unrecognised (text : String)
  | url (fault : UrlFault)
  | nestedPath (path : String)
  | fieldCount (count : Nat)
  | portNumber (text : String)
  | environmentPort (text : String)
  | noDatabase
  | noUser
  | tlsMode (text : String)
  deriving DecidableEq, Repr

def DescriptorFault.message : DescriptorFault → String
  | .unrecognised text =>
    s!"{quoted text} is not a URL, host:port:dbname:schema, or a database name"
  | .url fault => s!"malformed URL: {fault.message}"
  | .nestedPath path => s!"URL path {quoted path} is not a single database name"
  | .fieldCount count => s!"expected host:port:dbname:schema, found {count} field(s)"
  | .portNumber text => s!"invalid port {quoted text}"
  | .environmentPort text => s!"invalid PGPORT {quoted text}"
  | .noDatabase => "no database name given"
  | .noUser => "no user name given"
  | .tlsMode text => s!"unknown sslmode {quoted text}"

/-! ## Tenants, pools, schemas, configuration -/

/-- Why a tenant's name or prefix is refused. -/
inductive TenantFault where
  | blank
  | leadingDigit (tablePrefix : String)
  | tooLong (tablePrefix : String)
  | notSanitized
  | nameRequired
  deriving DecidableEq, Repr

def TenantFault.message : TenantFault → String
  | .blank => "tenant name is empty"
  | .leadingDigit p => s!"prefix {quoted p} starts with a digit"
  | .tooLong p => s!"prefix {quoted p} is longer than 30 bytes"
  | .notSanitized => "not a sanitized table prefix"
  | .nameRequired => "a tenant name is required in the monolithic topology"

/-- Why a pool cannot give a client. -/
inductive PoolFault where
  | bounds (min max : Nat)
  | unavailable
  deriving DecidableEq, Repr

def PoolFault.message : PoolFault → String
  | .bounds min max => s!"invalid pool bounds min={min} max={max}"
  | .unavailable => "no client available"

/-- Why an extraction path cannot be read. -/
inductive PathFault where
  | noRoot
  | emptyKey
  | unclosedBracket
  | badIndex
  | noSegment
  | wholeDocument
  deriving DecidableEq, Repr

def PathFault.message : PathFault → String
  | .noRoot => "must start with '$'"
  | .emptyKey => "empty key"
  | .unclosedBracket => "unclosed '['"
  | .badIndex => "array index is not a non-negative integer"
  | .noSegment => "expected '.' or '['"
  | .wholeDocument => "path selects the whole document"

/-- Why the stored schema cannot be brought up to date. -/
inductive SchemaFault where
  | path (text : String) (fault : PathFault)
  | unreadableVersion (value : String)
  | newerVersion (stored supported : Int)
  | backwards (stored wanted : Int)
  | undecodable (key : String)
  | ownerSetting (value : String)
  deriving DecidableEq, Repr

def SchemaFault.message : SchemaFault → String
  | .path text fault => s!"invalid extraction path {quoted text}: {fault.message}"
  | .unreadableVersion value => s!"unreadable schema version {value}"
  | .newerVersion stored supported =>
    s!"stored schema version {stored} is newer than supported version {supported}"
  | .backwards stored wanted =>
    s!"refusing to move schema version back from {stored} to {wanted}"
  | .undecodable key => s!"setting {quoted key} cannot be decoded"
  | .ownerSetting value => s!"tenant name setting holds {value}"

/-- Why a configuration or registry file is refused. -/
inductive ConfigurationFault where
  | unreadable
  | poolBounds (min max : Nat)
  | registryEntry (name found expected : String)
  deriving DecidableEq, Repr

def ConfigurationFault.message : ConfigurationFault → String
  | .unreadable => "TOML parse error"
  | .poolBounds min max => s!"pool bounds min={min} max={max} are invalid"
  | .registryEntry name found expected =>
    s!"registry entry {quoted name} has prefix TenantPrefix({quoted found}), " ++
      s!"expected TenantPrefix({quoted expected})"

/-- Why a file cannot be read or written. -/
inductive FileFault where
  | missing
  | exists
  | notDirectory
  | isDirectory
  | nameTooLong
  | nulCharacter
  deriving DecidableEq, Repr

def FileFault.message : FileFault → String
  | .missing => "No such file or directory (os error 2)"
  | .exists => "File exists (os error 17)"
  | .notDirectory => "Not a directory (os error 20)"
  | .isDirectory => "Is a directory (os error 21)"
  | .nameTooLong => "File name too long (os error 36)"
  | .nulCharacter => "file name contained an unexpected NUL byte"

/-! ## Statements -/

/-- Where the server says a statement went wrong, counted in characters from one: in the statement
that was sent, or in one the server made itself. -/
inductive ErrorPlace where
  | statement (position : Nat)
  | internalQuery (position : Nat)
  deriving DecidableEq, Repr

/-- What the server reports when it refuses a statement. -/
structure Report where
  code : String
  message : String
  detail : Option String := none
  hint : Option String := none
  table : Option String := none
  constraint : Option String := none
  place : Option ErrorPlace := none
  deriving DecidableEq, Repr

/-- The classes of statement failures. -/
inductive Category where
  | syntaxError
  | semantic
  | execution
  | transaction
  | connection
  | unknown
  deriving DecidableEq, Repr

def Category.label : Category → String
  | .syntaxError => "Syntax Error"
  | .semantic => "Semantic Error"
  | .execution => "Execution Error"
  | .transaction => "Transaction Error"
  | .connection => "Connection Error"
  | .unknown => "Error"

/-- Every category, in the order of the table above. -/
def Category.all : List Category :=
  [.syntaxError, .semantic, .execution, .transaction, .connection, .unknown]

/-- The category of an error code: two codes of class 42 are about syntax, otherwise the first two
characters decide. -/
def Category.ofCode (code : String) : Category :=
  let kind := String.ofList (code.toList.take 2)
  if kind = "42" then if code = "42601" ∨ code = "42000" then .syntaxError else .semantic
  else if kind ∈ ["22", "23", "53", "54", "55", "57"] then .execution
  else if kind ∈ ["25", "40"] then .transaction
  else if kind = "08" then .connection
  else .unknown

/-- How what was sent or received differs from what it has to be. -/
inductive Mismatch where
  | parameterCount (expected given : Nat)
  /-- A parameter, counted from zero, is of another type. -/
  | parameter (position : Nat)
  | rowCount
  | noColumn (position : Nat)
  /-- The value of a column, counted from zero, is of another type or cannot be read. -/
  | value (position : Nat)
  deriving DecidableEq, Repr

def Mismatch.message : Mismatch → String
  | .parameterCount expected given => s!"expected {expected} parameters but got {given}"
  | .parameter position => s!"error serializing parameter {position}"
  | .rowCount => "query returned an unexpected number of rows"
  | .noColumn position => s!"invalid column: {position}"
  | .value position => s!"error deserializing column {position}"

/-- What went wrong with a statement: the server refused it, the connection was closed, or what was
sent or received does not fit. -/
inductive StatementFault where
  | refused (report : Report)
  | closed
  | mismatch (mismatch : Mismatch)
  deriving DecidableEq, Repr

/-- A statement that failed, as it was sent. -/
structure StatementFailure where
  sql : String
  fault : StatementFault
  deriving DecidableEq, Repr

namespace StatementFailure

def category (f : StatementFailure) : Category :=
  match f.fault with
  | .refused report => .ofCode report.code
  | .closed => .connection
  | .mismatch _ => .unknown

def message (f : StatementFailure) : String :=
  match f.fault with
  | .refused report => s!"{f.category.label}: {report.message}"
  | .closed => s!"{f.category.label}: connection closed"
  | .mismatch m => s!"{f.category.label}: {m.message}"

/-- The line and the column, both from one, that are reached once the characters whose bytes start
before byte `target` are passed; `offset` is the byte where the text starts, `here` the place reached. -/
def advance (target : Nat) (offset : Nat) (here : Nat × Nat) : List Char → Nat × Nat
  | [] => here
  | c :: cs =>
    if target ≤ offset then here
    else if c = '\n' then advance target (offset + c.utf8Size) (here.1 + 1, 1) cs
    else advance target (offset + c.utf8Size) (here.1, here.2 + 1) cs

/-- The line and column of a position in a statement. -/
def lineColumn (sql : String) (position : Nat) : Nat × Nat :=
  if position = 0 then (1, 1) else advance (position - 1) 0 (1, 1) sql.toList

/-- The line and column where the server says the statement went wrong. -/
def place? (f : StatementFailure) : Option (Nat × Nat) :=
  match f.fault with
  | .refused { place := some (.statement position), .. } => some (lineColumn f.sql position)
  | _ => none

/-- The message with everything the server reported, one item a line. -/
def fullMessage (f : StatementFailure) : String :=
  let place := match f.place? with
    | some (line, column) => [s!"  at line {line}, column {column}"]
    | none => []
  let item (label : String) (value : Option String) : List String :=
    match value with
    | some value => [s!"  {label}: {value}"]
    | none => []
  let report := match f.fault with
    | .refused r =>
      [s!"  SQLSTATE: {r.code}"] ++ item "Detail" r.detail ++ item "Hint" r.hint ++
        item "Table" r.table ++ item "Constraint" r.constraint
    | _ => []
  "\n".intercalate (f.message :: place ++ report)

end StatementFailure

/-! ## All failures -/

/-- The failures whose message is a heading and a detail. -/
inductive Heading where
  | descriptor
  | pool
  | tls
  | schema
  | configuration
  deriving DecidableEq, Repr

def Heading.sentence (h : Heading) (detail : String) : String :=
  match h with
  | .descriptor => s!"invalid connection descriptor: {detail}"
  | .pool => s!"connection pool error: {detail}"
  | .tls => s!"TLS setup failed: {detail}"
  | .schema => s!"schema state error: {detail}"
  | .configuration => s!"configuration error: {detail}"

/-- The message about a refused tenant. -/
def tenantSentence (name reason : String) : String :=
  s!"invalid tenant name {quoted name}: {reason}"

/-- The message about two tenants with one prefix. -/
def collisionSentence (tablePrefix existing requested : String) : String :=
  s!"tenant {quoted requested} collides with tenant {quoted existing} on table prefix " ++
    quoted tablePrefix

/-- Whatever can go wrong. -/
inductive Failure where
  | descriptor (fault : DescriptorFault)
  | connect (address : String)
  | pool (fault : PoolFault)
  | tls
  | statement (failure : StatementFailure)
  | schema (fault : SchemaFault)
  | collision (tablePrefix existing requested : String)
  | invalidTenant (name : String) (fault : TenantFault)
  | configuration (fault : ConfigurationFault)
  | file (fault : FileFault)
  deriving DecidableEq, Repr

def Failure.message : Failure → String
  | .descriptor fault => Heading.descriptor.sentence fault.message
  | .connect address => s!"failed to connect to {address}"
  | .pool fault => Heading.pool.sentence fault.message
  | .tls => Heading.tls.sentence "no usable certificate"
  | .statement failure => failure.message
  | .schema fault => Heading.schema.sentence fault.message
  | .collision tablePrefix existing requested => collisionSentence tablePrefix existing requested
  | .invalidTenant name fault => tenantSentence name fault.message
  | .configuration fault => Heading.configuration.sentence fault.message
  | .file fault => fault.message

end Tenancy
