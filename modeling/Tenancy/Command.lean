import Tenancy.Broker
import Tenancy.Command.Line
import Tenancy.Descriptor

/-!
# Commands

What the program does when it is called: it reads the configuration, carries out one command and prints
what comes of it. `Invocation.perform` is all of that, in a world of files and a server; what it printed
before a failure stays printed.
-/

namespace Tenancy

/-- Why a command fails. -/
inductive CommandFault where
  /-- The configuration cannot be loaded from a file. -/
  | loading (path : String)
  | noDescriptor
  /-- Nobody can be asked for the password. -/
  | noTerminal
  | failure (f : Failure)
  deriving DecidableEq, Repr

def CommandFault.message : CommandFault → String
  | loading path => s!"loading {path}"
  | noDescriptor =>
    "no connection descriptor: pass --descriptor or set \x60descriptor\x60 in the config"
  | noTerminal => "No such device or address (os error 6)"
  | failure f => f.message

/-- The world around a command, and the lines that it printed, the latest first. -/
structure Desk (σ : Type) where
  world : World σ
  printed : List String := []

/-- What a command does. -/
abbrev Job (σ : Type) : Type → Type := ExceptT CommandFault (StateM (Desk σ))

namespace Job
variable {σ : Type}

/-- Prints a line. -/
def print (line : String) : Job σ Unit :=
  modify fun d => { d with printed := line :: d.printed }

/-- A result that is known. -/
def ofExcept {α : Type} (result : Except Failure α) : Job σ α :=
  ExceptT.mk (pure (result.mapError .failure))

/-- Does something in the world. -/
def within {α : Type} (a : StateM (World σ) α) : Job σ α := do
  let d ← get
  let (result, world) := a.run d.world
  set { d with world }
  return result

/-- Keeps something in files. -/
def filing {α : Type} (p : Files.Filing α) : Job σ α := do
  ofExcept (← within (Action.filing p).attempt)

variable [Server σ]

/-- Does something with a connection. -/
def talk {α : Type} (c : Connection) (step : Step σ α) : Job σ (α × Connection) := do
  let (result, c) ← within (c.use step)
  return (← ofExcept result, c)

end Job

/-- Variables of the environment that are looked at. -/
def environmentVariables : List String :=
  ["PGHOST", "PGPORT", "PGDATABASE", "PGUSER", "PGPASSWORD", "XDG_CONFIG_HOME", "HOME"]

namespace Environment

/-- A path below a directory. -/
def below (directory name : String) : String :=
  if directory.endsWith "/" then directory ++ name else s!"{directory}/{name}"

/-- The directory for the user's configuration. -/
def configurationDirectory (env : Environment) : String :=
  match (env "XDG_CONFIG_HOME").filter (·.startsWith "/") with
  | some directory => directory
  | none =>
    match (env "HOME").filter (· ≠ "") with
    | some home => below home ".config"
    | none => "."

/-- The usual path of one of the program's files. -/
def usualPath (env : Environment) (name : String) : String :=
  below (below (configurationDirectory env) "pgtenant") name

/-- The usual path of the configuration. -/
def configurationPath (env : Environment) : String := usualPath env "config.toml"

/-- The usual path of the registry. -/
def registryPath (env : Environment) : String := usualPath env "tenants.toml"

end Environment

namespace Invocation

/-- Where the configuration is. -/
def configurationPath (i : Invocation) (env : Environment) : String :=
  i.configuration.getD (Environment.configurationPath env)

/-- The address to connect to: that of the descriptor on the line or else in the configuration. Its
password must be known. -/
def address (i : Invocation) (c : Configuration) (env : Environment) : Except CommandFault Address :=
  match i.descriptor <|> c.descriptor with
  | none => .error .noDescriptor
  | some text => do
    let a ← (Address.read text env).mapError .failure
    if a.password.isNone then throw .noTerminal
    return a

variable {σ : Type} [Server σ]

/-- The broker for a command. -/
def broker (i : Invocation) (c : Configuration) (env : Environment) : Job σ Broker := do
  let a ← ExceptT.mk (pure (i.address c env))
  Job.ofExcept
    (← Job.within (Broker.ofConfiguration c a (Environment.registryPath env)).attempt)

/-- The version of the schema behind a connection, zero if there is none. -/
def storedVersion (c : Connection) : Step σ Int := do
  if ← Connection.tableExists Schema.settingsTable then Connection.perform c.site.version
  else return 0

/-- Prints what a statement gave. -/
def printResult (cursor : Cursor) (rows : List Row) : Job σ Unit :=
  if cursor.columns.isEmpty then Job.print s!"{cursor.rowCount} row(s) affected"
  else do
    Job.print ("\t".intercalate (cursor.columns.map (·.name)))
    for row in rows do
      Job.print ("\t".intercalate ((Cell.ofRow cursor.columns row).map Cell.display))
    Job.print s!"({cursor.rowCount} rows)"

/-- Runs a statement, prints what it gives and keeps what it did. -/
def queryOn (c : Connection) (sql : String) : Job σ Unit := do
  let (cursor, c) ← Job.talk c (Connection.execute sql [])
  let (rows, c) ← Job.talk c (Connection.within cursor.fetchAll)
  printResult cursor rows
  let _ ← Job.talk c Connection.commit

/-- Carries out the command. -/
def carryOut (i : Invocation) (c : Configuration) (env : Environment) : Job σ Unit := do
  let registryPath := c.registryPath.getD (Environment.registryPath env)
  match i.command with
  | .translate sql => Job.print (String.ofList (Sql.adapt Sql.legacyRules sql.toList))
  | .showPrefix tenant =>
    let p ← Job.ofExcept (TablePrefix.ofName tenant)
    let registry ← Job.filing (Registry.load registryPath)
    match (registry.tenant? p).filter (· ≠ tenant) with
    | some owner => Job.print s!"{p.text}  (already registered to {Text.quoted owner})"
    | none => Job.print p.text
  | .register tenant =>
    let registry ← Job.filing (Registry.load registryPath)
    let (p, registry) ← Job.ofExcept (registry.register tenant)
    Job.filing (registry.save registryPath)
    Job.print s!"{tenant} -> {p.text}"
  | .ensureSchema tenant =>
    let (_, session) ← Job.within ((← i.broker c env).start tenant)
    Job.print (← Job.ofExcept session).outcome.text
  | .schemaVersion tenant =>
    let (_, connection) ← Job.within ((← i.broker c env).connect tenant)
    let connection ← Job.ofExcept connection
    let (version, connection) ← Job.talk connection (storedVersion connection)
    let _ ← Job.talk connection Connection.rollback
    Job.print (toString version)
  | .query sql tenant =>
    let (_, session) ← Job.within ((← i.broker c env).start tenant)
    queryOn (← Job.ofExcept session).connection sql

/-- Reads the configuration and carries out the command. -/
def perform (i : Invocation) (env : Environment) : Job σ Unit := do
  let path := i.configurationPath env
  match ← Job.within (Action.filing (Configuration.load path)).attempt with
  | .error _ => throw (.loading path)
  | .ok c => i.carryOut c env

end Invocation

/-- The files that a line of arguments is about, as far as the configuration among the given files tells:
the configuration, the registry and the certificate of an authority. -/
def Invocation.paths (arguments : List String) (env : Environment) (fs : Files) : List String :=
  match Invocation.read arguments with
  | .error _ => []
  | .ok i =>
    let path := i.configurationPath env
    let configuration := ((fs.content path).toOption.bind fun text =>
      (Configuration.ofText text).toOption).getD {}
    let certificate := (i.address configuration env).toOption.bind (·.rootCertificate?)
    [path, configuration.registryPath.getD (Environment.registryPath env)] ++ certificate.toList

/-- What the program leaves behind. -/
structure Leaving where
  /-- Zero for success, one for a failure, two for a line that is no invocation. -/
  code : Nat
  output : String := ""
  complaint : String := ""
  deriving DecidableEq, Repr

/-- The program's version. -/
def programVersion : String := "0.1.0"

/-- How the program is used. -/
def programUsage : String :=
  "Usage: pgtenant [OPTIONS] <COMMAND>\n\n" ++
    "Commands:\n  translate <SQL>\n  prefix <TENANT>\n  register <TENANT>\n" ++
    "  ensure-schema [--tenant <TENANT>]\n  schema-version [--tenant <TENANT>]\n" ++
    "  query [--tenant <TENANT>] <SQL>\n\n" ++
    "Options:\n  --config <CONFIG>\n  -d, --descriptor <DESCRIPTOR>\n  -h, --help\n  -V, --version\n"

/-- Calls the program with a line of arguments, an environment and a world. -/
def callProgram {σ : Type} [Server σ] (arguments : List String) (env : Environment) :
    StateM (World σ) Leaving := do
  match Invocation.read arguments with
  | .error .help => return { code := 0, output := programUsage }
  | .error .version => return { code := 0, output := s!"pgtenant {programVersion}\n" }
  | .error .misuse => return { code := 2, complaint := programUsage }
  | .ok i =>
    let (result, desk) := (i.perform env).run.run { world := ← get }
    set desk.world
    let output := String.join (desk.printed.reverse.map (· ++ "\n"))
    match result with
    | .ok () => return { code := 0, output }
    | .error fault => return { code := 1, output, complaint := s!"Error: {fault.message}\n" }

end Tenancy
