import Tenancy.Certificate
import Tenancy.Files
import Tenancy.Server
import Tenancy.Sql.Identifier

/-!
# The world around connections

What connections share: the server, the files, the pools, and the rows that are not fetched yet. An
`Action` changes the world and gives a value or fails; what it changed before a failure stays changed.
-/

namespace Tenancy

/-- Clients that are kept for later use. -/
structure Pool where
  address : Address
  /-- How the connections of the clients are protected. -/
  tls : TlsMode
  /-- How many clients there may be at once. -/
  max : Nat
  /-- The clients at rest, the one that rests longest first. -/
  idle : List Client := []
  /-- How many clients are in use. -/
  lent : Nat := 0
  deriving DecidableEq, Repr

/-- The state of everything that connections share. -/
structure World (σ : Type) where
  server : σ
  files : Files := {}
  pools : List Pool := []
  /-- For each cursor, by its number, the rows that are still to be fetched. -/
  results : List (List Row) := []

/-- What changes the world and gives a value or fails. -/
abbrev Action (σ : Type) : Type → Type := ExceptT Failure (StateM (World σ))

namespace Action
variable {σ : Type} {α : Type}

/-- The outcome of an action as a value. -/
def attempt (a : Action σ α) : StateM (World σ) (Except Failure α) := a.run

/-- Runs a procedure that keeps something in files. -/
def filing (p : Files.Filing α) : Action σ α :=
  ExceptT.mk do
    let w ← get
    let (result, files) := (p.run Files.answer).run w.files
    set { w with files }
    return result

/-- Lets the server do something. -/
def served (f : σ → α × σ) : Action σ α := do
  let w ← get
  let (a, server) := f w.server
  set { w with server }
  return a

end Action

namespace Client
variable {σ : Type} [Server σ]

/-- Sends a statement without parameters. -/
def send (c : Client) (sql : String) : Action σ Unit := do
  match ← Action.served (Server.send c sql) with
  | .ok () => return ()
  | .error fault => throw (.statement ⟨sql, fault⟩)

/-- Runs a statement with parameters. -/
def run (c : Client) (sql : String) (parameters : List Parameter) : Action σ Reply := do
  match ← Action.served (Server.run c sql parameters) with
  | .ok reply => return reply
  | .error fault => throw (.statement ⟨sql, fault⟩)

/-- Closes the connection of a client for good. -/
def leave (c : Client) : Action σ Unit := Action.served fun server => ((), Server.leave c server)

/-- Whether the connection of a client is closed. -/
def isClosed (c : Client) : Action σ Bool := return Server.isClosed c (← get).server

/-- Makes the server look for tables in one schema. -/
def setSchema (c : Client) (schema : String) : Action σ Unit :=
  c.send s!"SET search_path TO {String.ofList (Sql.quoteName schema.toList)}"

end Client

namespace Address
variable {σ : Type} [Server σ]

/-- What it takes to log in at an address. -/
def login (a : Address) (tls : TlsMode) : Login where
  host := a.host
  port := a.port
  tls := tls
  user := a.user
  password := a.password
  database := a.database
  application := applicationName

/-- How a connection to an address is protected. Where the server has to show a certificate, that of
the authority must be there if a file is named. -/
def protection (a : Address) : Action σ TlsMode := do
  let tls ← ExceptT.mk (pure a.tlsMode)
  match a.rootCertificate? with
  | some path =>
    if tls.isStrict then
      match (← get).files.content path with
      | .ok text => if hasCertificate text then return tls else throw .tls
      | .error fault => throw (.file fault)
    else return tls
  | none => return tls

/-- Logs in at an address, with a given protection. -/
def logIn? (a : Address) (tls : TlsMode) : Action σ (Option Client) :=
  Action.served (Server.logIn (a.login tls))

/-- A client of its own at an address. -/
def openClient (a : Address) : Action σ Client := do
  match ← a.logIn? (← a.protection) with
  | some c =>
    if let some schema := a.schema? then c.setSchema schema
    return c
  | none => throw (.connect a.text)

end Address
end Tenancy
