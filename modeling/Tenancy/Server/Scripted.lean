import Tenancy.Server.Wire
import Tenancy.Sql.Parameter
import Tenancy.Text.Word

/-!
# A server that follows a script

A server for rehearsals. It keeps the names of the tables that were created and the settings that were
written, takes part in transactions, and writes down everything it receives. Beyond that it accepts
every statement, unless a cue of its script says otherwise.
-/

namespace Tenancy

/-- A stored setting: the text of its document and its bytes. -/
structure StoredSetting where
  document : Option String := none
  bytes : Option (List UInt8) := none
  deriving DecidableEq, Repr

/-- What the server keeps. -/
structure Database where
  tables : List String := []
  /-- For each table with settings, the setting of each key. -/
  settings : List (String × List (String × StoredSetting)) := []
  deriving DecidableEq, Repr

namespace Database

/-- Sets the value of a key. -/
def assign {α : Type} (key : String) (value : α) : List (String × α) → List (String × α)
  | [] => [(key, value)]
  | e :: es => if e.1 = key then (key, value) :: es else e :: assign key value es

/-- A setting in a table. -/
def setting? (d : Database) (table key : String) : Option StoredSetting := do
  (← d.settings.lookup table).lookup key

/-- Writes a setting into a table. -/
def setSetting (d : Database) (table key : String) (value : StoredSetting) : Database :=
  let rows := (d.settings.lookup table).getD []
  { d with settings := assign table (assign key value rows) d.settings }

/-- Adds a table. -/
def addTable (d : Database) (name : String) : Database :=
  if name ∈ d.tables then d else { d with tables := d.tables ++ [name] }

end Database

/-- A condition on the text of a statement. -/
structure Pattern where
  equals : Option String := none
  contains : Option String := none
  starts : Option String := none
  deriving DecidableEq, Repr

/-- Whether a statement meets all of the conditions. -/
def Pattern.fits (p : Pattern) (sql : String) : Bool :=
  p.equals.all (· = sql) && p.contains.all (fun s => Text.standsIn s.toList sql.toList) &&
    p.starts.all fun s => s.toList.isPrefixOf sql.toList

/-- What the script says to a statement. -/
inductive Turn where
  /-- The connection is closed. -/
  | close
  /-- The statement is refused, when it is prepared or only when it is executed. -/
  | refuse (report : Report) (whenExecuted : Bool)
  | reply (reply : Reply)
  deriving DecidableEq, Repr

/-- A part of the script: which statements it is for, how often it still counts, and what it says. -/
structure Cue where
  pattern : Pattern
  /-- Nothing where it counts without end. -/
  left : Option Nat := none
  turn : Turn
  deriving DecidableEq, Repr

/-- The first cue for a statement and the script after it was used. -/
def nextTurn (sql : String) : List Cue → Option (Turn × List Cue)
  | [] => none
  | cue :: cues =>
    if cue.left ≠ some 0 ∧ cue.pattern.fits sql then
      some (cue.turn, { cue with left := cue.left.map (· - 1) } :: cues)
    else (nextTurn sql cues).map fun (turn, cues) => (turn, cue :: cues)

/-- The server's side of a connection. -/
structure Link where
  closed : Bool := false
  /-- What was kept when the transaction began. -/
  beginning : Option Database := none
  /-- What was kept at each savepoint, the latest first. -/
  savepoints : List (String × Database) := []
  deriving DecidableEq, Repr

/-- What the server received. -/
inductive Received where
  | tlsRequest
  | login (user database application : String)
  | simple (sql : String)
  /-- The parameters are there if the statement was executed. -/
  | prepared (sql : String) (parameters : Option (List Parameter))
  deriving BEq, Repr

/-- The state of a server that follows a script. -/
structure ScriptedServer where
  host : String
  port : Nat
  password : Option String := none
  script : List Cue := []
  database : Database := {}
  /-- The connections in the order of their numbers, which count from one. -/
  links : List Link := []
  /-- What was received over which connection, the latest first. -/
  log : List (Client × Received) := []

/-- The statements that the server understands. -/
inductive Understood where
  | begin
  | commit
  | rollback
  | savepoint (name : String)
  | rollbackTo (name : String)
  | release (name : String)
  | tableExists
  | createTable (name : String)
  /-- A query for a setting, with its document or without. -/
  | readSetting (table : String) (document : Bool)
  | writeSetting (table : String)
  | other
  deriving DecidableEq, Repr

namespace Understood

/-- What follows the text `head`. -/
def after? (head sql : String) : Option String :=
  if head.toList.isPrefixOf sql.toList then some (String.ofList (sql.toList.drop head.length))
  else none

/-- The first word of a text and what follows it. -/
def splitWord (s : String) : String × String :=
  let stays (c : Char) : Bool := !c.isWhitespace && c ≠ '('
  (String.ofList (s.toList.takeWhile stays), String.ofList (s.toList.dropWhile stays))

/-- The first word of a text, where it is followed by the text `next`. -/
def wordBefore? (next s : String) : Option String :=
  let (word, rest) := splitWord s
  if next.toList.isPrefixOf rest.toList then some word else none

/-- The ways to read a statement that is not one of a single text. -/
def readings : List (String → Option Understood) := [
  fun sql => (after? "SAVEPOINT " sql).map savepoint,
  fun sql => (after? "ROLLBACK TO SAVEPOINT " sql).map rollbackTo,
  fun sql => (after? "RELEASE SAVEPOINT " sql).map release,
  fun sql => (after? "SELECT EXISTS (SELECT 1 FROM pg_catalog.pg_tables" sql).map fun _ => tableExists,
  fun sql => (after? "CREATE TABLE IF NOT EXISTS " sql).map fun s => createTable (splitWord s).1,
  fun sql => ((after? "SELECT json_data, blob_data FROM " sql).bind
    (wordBefore? " WHERE setting = ")).map (readSetting · true),
  fun sql => ((after? "SELECT NULL::jsonb, blob_data FROM " sql).bind
    (wordBefore? " WHERE setting = ")).map (readSetting · false),
  fun sql => ((after? "INSERT INTO " sql).bind (wordBefore? " (setting, ")).map writeSetting]

/-- Reads a statement. -/
def ofSql (sql : String) : Understood :=
  match sql with
  | "BEGIN" => begin
  | "COMMIT" => commit
  | "ROLLBACK" => rollback
  | _ => (readings.findSome? fun reading => reading sql).getD other

end Understood

namespace ScriptedServer

/-- The text that a parameter holds. -/
def textOf : Option Parameter → Option String
  | some (.text s) => some s
  | _ => none

/-- The columns of a setting. -/
def settingColumns : List Column := [⟨"json_data", "jsonb"⟩, ⟨"blob_data", "bytea"⟩]

/-- The setting that parameters describe. -/
def described? : List Parameter → Option (String × StoredSetting)
  | [.text key, .document v, .bytes bs] => some (key, ⟨some v.text, some bs⟩)
  | [.text key, .bytes bs] => some (key, ⟨none, some bs⟩)
  | _ => none

/-- What the server does with a statement that it understands: to its side of the connection and to what
it keeps. -/
def obey (link : Link) (d : Database) (parameters : List Parameter) :
    Understood → Reply × Link × Database
  | .begin => ({}, { link with beginning := some d, savepoints := [] }, d)
  | .commit => ({}, { link with beginning := none, savepoints := [] }, d)
  | .rollback => ({}, { link with beginning := none, savepoints := [] }, link.beginning.getD d)
  | .savepoint name => ({}, { link with savepoints := (name, d) :: link.savepoints }, d)
  | .rollbackTo name =>
    match link.savepoints.dropWhile (·.1 ≠ name) with
    | [] => ({}, link, d)
    | (name, former) :: earlier => ({}, { link with savepoints := (name, former) :: earlier }, former)
  | .release name =>
    match link.savepoints.dropWhile (·.1 ≠ name) with
    | [] => ({}, link, d)
    | _ :: earlier => ({}, { link with savepoints := earlier }, d)
  | .tableExists =>
    let found := (textOf parameters.head?).any (· ∈ d.tables)
    ({ columns := [⟨"exists", "bool"⟩], rows := [[some [if found then 1 else 0]]] }, link, d)
  | .createTable name => ({}, link, d.addTable name)
  | .readSetting table document =>
    let row (s : StoredSetting) : Row :=
      [if document then s.document.map Wire.document else none, s.bytes]
    let found := (textOf parameters.head?).bind (d.setting? table)
    ({ columns := settingColumns, rows := (found.map row).toList }, link, d)
  | .writeSetting table =>
    match described? parameters with
    | some (key, value) =>
      let kept := (d.setting? table key).bind (·.document)
      let document := if parameters.length = 3 then value.document else kept
      ({}, link, d.setSetting table key { value with document })
    | none => ({}, link, d)
  | .other => ({}, link, d)

/-- Writes down what was received. -/
def note (s : ScriptedServer) (c : Client) (r : Received) : ScriptedServer :=
  { s with log := (c, r) :: s.log }

/-- The server's side of a client's connection. -/
def link (s : ScriptedServer) (c : Client) : Link := s.links[c.number - 1]?.getD { closed := true }

/-- Replaces the server's side of a client's connection. -/
def setLink (s : ScriptedServer) (c : Client) (link : Link) : ScriptedServer :=
  { s with links := s.links.set (c.number - 1) link }

/-- Does what a statement says. -/
def perform (s : ScriptedServer) (c : Client) (sql : String) (parameters : List Parameter) :
    Reply × ScriptedServer :=
  let (reply, link, database) := obey (s.link c) s.database parameters (.ofSql sql)
  (reply, { s.setLink c link with database })

/-- Logs a client in. The server never agrees to protect a connection. -/
def logIn (l : Login) (s : ScriptedServer) : Option Client × ScriptedServer :=
  if l.host ≠ s.host ∨ l.port ≠ s.port then (none, s)
  else
    let c : Client := ⟨s.links.length + 1⟩
    let arrived := { s with links := s.links ++ [{}] }
    let asked := if l.tls = .disable then arrived else arrived.note c .tlsRequest
    if l.tls ≠ .disable ∧ l.tls ≠ .prefer then (none, asked)
    else
      let known := asked.note c (.login l.user l.database l.application)
      if s.password = none ∨ s.password = l.password then (some c, known) else (none, known)

/-- The turn for a statement, and the server with its script used. -/
def takeTurn (s : ScriptedServer) (sql : String) : Option Turn × ScriptedServer :=
  match nextTurn sql s.script with
  | some (turn, script) => (some turn, { s with script })
  | none => (none, s)

/-- Closes a client's connection. -/
def close (s : ScriptedServer) (c : Client) : ScriptedServer :=
  s.setLink c { s.link c with closed := true }

/-- Receives a statement without parameters. -/
def send (c : Client) (sql : String) (s : ScriptedServer) :
    Except StatementFault Unit × ScriptedServer :=
  if (s.link c).closed then (.error .closed, s)
  else
    let (turn, s) := s.takeTurn sql
    let s := s.note c (.simple sql)
    match turn with
    | some .close => (.error .closed, s.close c)
    | some (.refuse report _) => (.error (.refused report), s)
    | some (.reply _) => (.ok (), s)
    | none => (.ok (), (s.perform c sql []).2)

/-- The kinds of parameters. -/
inductive Kind where
  | text
  | document
  | bytes
  deriving DecidableEq, Repr

/-- The kinds of the `count` parameters that a statement takes: texts, but for the values of a
setting. -/
def kinds (sql : String) (count : Nat) : List Kind :=
  match Understood.ofSql sql, count with
  | .writeSetting _, 3 => [.text, .document, .bytes]
  | .writeSetting _, 2 => [.text, .bytes]
  | _, _ => List.replicate count .text

/-- Whether a parameter is of a kind. A text that is not there is a text. -/
def Kind.admits : Kind → Parameter → Bool
  | text, .text _ | text, .null => true
  | document, .document _ => true
  | bytes, .bytes _ => true
  | _, _ => false

/-- Why parameters do not fit a statement, if they do not. -/
def misfit? (sql : String) (parameters : List Parameter) : Option Mismatch :=
  let count := Sql.parameterCount sql
  if count ≠ parameters.length then some (.parameterCount count parameters.length)
  else (((kinds sql count).zip parameters).findIdx? fun (k, p) => !k.admits p).map .parameter

/-- Receives a statement that is prepared and then executed with parameters. -/
def run (c : Client) (sql : String) (parameters : List Parameter) (s : ScriptedServer) :
    Except StatementFault Reply × ScriptedServer :=
  if (s.link c).closed then (.error .closed, s)
  else
    let (turn, s) := s.takeTurn sql
    let rejected := s.note c (.prepared sql none)
    match turn with
    | some .close => (.error .closed, rejected.close c)
    | some (.refuse report false) => (.error (.refused report), rejected)
    | turn =>
      match misfit? sql parameters with
      | some m => (.error (.mismatch m), rejected)
      | none =>
        let executed := s.note c (.prepared sql (some parameters))
        match turn with
        | some (.refuse report _) => (.error (.refused report), executed)
        | some (.reply reply) => (.ok reply, executed)
        | _ =>
          let (reply, s) := executed.perform c sql parameters
          (.ok reply, s)

instance : Server ScriptedServer where
  logIn := logIn
  send := send
  run := run
  leave c s := s.close c
  isClosed c s := (s.link c).closed

end ScriptedServer
end Tenancy
