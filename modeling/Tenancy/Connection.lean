import Tenancy.Lease
import Tenancy.Pool
import Tenancy.Sql.Rule

/-!
# Connections

A connection sends statements in the legacy dialect to a server. It has a client of its own, or takes
one from a pool for as long as a transaction lasts. A transaction is opened by the first statement,
unless each statement is to be one of its own, and ended by `commit` or `rollback`. A connection under
a lease puts the tenant's tables in place of those that a statement names.

What a connection does changes the connection and the world around it, and what was changed before a
failure stays changed: a `Step` is an action on both.
-/

namespace Tenancy

/-- Where the rows of a statement are fetched. Whoever holds a cursor fetches the same rows, each of
them once. -/
structure Cursor where
  number : Nat
  columns : List Column
  /-- How many rows there are in all, or how many were affected if there are no columns. -/
  rowCount : Nat
  deriving DecidableEq, Repr

/-- What a connection sends its statements through. -/
inductive Channel where
  /-- A client of its own. -/
  | direct (client : Client)
  /-- A pool, by its number, and the client that is taken from it. -/
  | pooled (pool : Nat) (held : Option Client)
  deriving DecidableEq, Repr

/-- A connection to a database. -/
structure Connection where
  address : Address
  channel : Channel
  rules : List Sql.Rule := Sql.legacyRules
  /-- Whether each statement is a transaction of its own. -/
  autocommit : Bool := address.autocommit
  inTransaction : Bool := false
  /-- The cursor of the last statement that succeeded. -/
  last : Option Cursor := none
  /-- The tenant for whom statements are sent. -/
  lease : Option Lease := none

/-- A connection and the world around it. -/
structure Scene (σ : Type) where
  connection : Connection
  world : World σ

/-- What a connection does. -/
abbrev Step (σ : Type) : Type → Type := ExceptT Failure (StateM (Scene σ))

namespace Cursor
variable {σ : Type}

/-- A cursor for the rows of a reply. -/
def ofReply (r : Reply) : Action σ Cursor := do
  let number := (← get).results.length
  let rows := if r.columns.isEmpty then [] else r.rows
  modify fun w => { w with results := w.results ++ [rows] }
  return ⟨number, r.columns, r.rowCount⟩

/-- The rows that are still to be fetched. -/
def rest (c : Cursor) : Action σ (List Row) := return (← get).results[c.number]?.getD []

/-- Fetches the next rows, at most `count` of them. -/
def fetch (c : Cursor) (count : Nat) : Action σ (List Row) := do
  let rows ← c.rest
  modify fun w => { w with results := w.results.set c.number (rows.drop count) }
  return rows.take count

/-- Fetches the next row. -/
def fetchOne (c : Cursor) : Action σ (Option Row) := return (← c.fetch 1).head?

/-- Fetches all rows that are left. -/
def fetchAll (c : Cursor) : Action σ (List Row) := do c.fetch (← c.rest).length

/-- How many rows are left. -/
def remaining (c : Cursor) : Action σ Nat := return (← c.rest).length

end Cursor

namespace Connection

/-- Whether clients come from a pool. -/
def isPooled (c : Connection) : Bool :=
  match c.channel with
  | .direct _ => false
  | .pooled _ _ => true

/-- The prefix of the tenant for whom statements are sent. -/
def tablePrefix (c : Connection) : Option TablePrefix := c.lease.map (·.tablePrefix)

/-- A statement as it goes to the server. -/
def adapt (c : Connection) (sql : String) : String :=
  let leased := match c.lease with
    | some lease => lease.apply sql.toList
    | none => sql.toList
  String.ofList (Sql.forServer c.rules leased)

/-- The table that an identifier denotes. Under a lease its name is put between quotes on the way. -/
def table (c : Connection) (name : String) : String :=
  let denoted := match c.lease with
    | some lease => Sql.quoteName (lease.table name).toList
    | none => name.toList
  String.ofList (Sql.foldName denoted)

variable {σ : Type}

/-- Does something in the world. -/
def within {α : Type} (a : Action σ α) : Step σ α :=
  ExceptT.mk do
    let s ← get
    let (result, world) := a.run.run s.world
    set { s with world }
    return result

/-- Changes the connection. -/
def change (f : Connection → Connection) : Step σ Unit :=
  modify fun s => { s with connection := f s.connection }

/-- The outcome of a step as a value. -/
def attempt {α : Type} (a : Step σ α) : Step σ (Except Failure α) := ExceptT.mk (.ok <$> a.run)

/-- Fetches the next row of the last statement that succeeded. -/
def fetchOne : Step σ (Option Row) := do
  match (← get).connection.last with
  | some cursor => within cursor.fetchOne
  | none => return none

/-- Fetches all rows that are left of the last statement that succeeded. -/
def fetchAll : Step σ (List Row) := do
  match (← get).connection.last with
  | some cursor => within cursor.fetchAll
  | none => return []

variable [Server σ]

/-- A connection with a client of its own. -/
def direct (address : Address) : Action σ Connection :=
  return { address, channel := .direct (← address.openClient) }

/-- A connection that takes its clients from a pool. -/
def pooled (address : Address) (pool : Nat) : Connection :=
  { address, channel := .pooled pool none }

/-- The client to send through; one is taken from the pool unless one is held. -/
def client : Step σ Client := do
  let c := (← get).connection
  match c.channel with
  | .direct client => return client
  | .pooled _ (some client) => return client
  | .pooled pool none =>
    let client ← within (Pool.take pool)
    if let some schema := c.address.schema? then
      if let .error failure ← attempt (within (client.setSchema schema)) then
        within (Pool.giveBack pool client)
        throw failure
    change fun c => { c with channel := .pooled pool (some client) }
    return client

/-- Gives the client back to the pool, if one is held. -/
def release : Step σ Unit := do
  if let .pooled pool (some client) := (← get).connection.channel then
    change fun c => { c with channel := .pooled pool none }
    within (Pool.giveBack pool client)

/-- Sends a statement as it stands. -/
def sendRaw (sql : String) : Step σ Unit := do within ((← client).send sql)

/-- Opens a transaction, if none is open. -/
def begin : Step σ Unit := do
  unless (← get).connection.inTransaction do
    sendRaw "BEGIN"
    change fun c => { c with inTransaction := true }

/-- Ends the transaction, if one is open. Whatever the server says to that, no transaction is open
afterwards and the client goes back to the pool. -/
def endTransaction (command : String) : Step σ Unit := do
  if (← get).connection.inTransaction then
    let client ← client
    let result ← attempt (within (client.send command))
    change fun c => { c with inTransaction := false }
    release
    ExceptT.mk (pure result)

/-- Keeps what was done in the transaction. -/
def commit : Step σ Unit := endTransaction "COMMIT"

/-- Undoes what was done in the transaction. -/
def rollback : Step σ Unit := endTransaction "ROLLBACK"

/-- Runs a statement with parameters. Unless each statement is to be a transaction of its own, one is
opened first; it is open even if the statement fails. -/
def execute (sql : String) (parameters : List Parameter) : Step σ Cursor := do
  let c := (← get).connection
  let opens := !c.autocommit && !c.inTransaction
  let client ← client
  if opens then within (client.send "BEGIN")
  let result ← attempt (within (client.run (c.adapt sql) parameters))
  if opens then change fun c => { c with inTransaction := true }
  if c.autocommit && !c.inTransaction then release
  let cursor ← within (Cursor.ofReply (← ExceptT.mk (pure result)))
  change fun c => { c with last := some cursor }
  return cursor

/-- The question whether there is a table of a name in the schemas that are looked at. -/
def existsQuery : String :=
  "SELECT EXISTS (SELECT 1 FROM pg_catalog.pg_tables " ++
    "WHERE schemaname = ANY (current_schemas(false)) AND tablename = $1)"

/-- The truth value that a reply has in its only row. -/
def truth? (r : Reply) : Except Mismatch Bool :=
  match r.columns, r.rows with
  | column :: _, [row] =>
    if column.type = "bool" then
      match row.head? with
      | some (some [b]) => .ok (b ≠ 0)
      | _ => .error (.value 0)
    else .error (.value 0)
  | _, _ => .error .rowCount

/-- Whether there is a table. Outside of a transaction the client goes back to the pool, unless the
question fails. -/
def tableExists (name : String) : Step σ Bool := do
  let c := (← get).connection
  let client ← client
  let reply ← within (client.run existsQuery [.text (c.table name)])
  match truth? reply with
  | .error m => throw (.statement ⟨existsQuery, .mismatch m⟩)
  | .ok answer =>
    unless c.inTransaction do release
    return answer

/-- Puts a connection away. A client of its own leaves; one from a pool goes back to it, but for one in a
transaction: that is not used again. -/
def drop (c : Connection) : Action σ Unit :=
  match c.channel with
  | .direct client => client.leave
  | .pooled _ none => return ()
  | .pooled pool (some client) =>
    if c.inTransaction then Pool.discard pool client else Pool.giveBack pool client

end Connection
end Tenancy
