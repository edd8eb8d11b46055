import Tenancy.Configuration
import Tenancy.Registry.File
import Tenancy.Schema.Upkeep

/-!
# The broker of sessions

A broker opens sessions for tenants on one database, as the configuration says. Where tenants share the
database it hands out prefixes, keeping them in a registry that is written to its file as soon as it
grows; a connection for a tenant is then under a lease. All sessions share one pool, if there is one.
-/

namespace Tenancy

/-- What it takes to open sessions. -/
structure Broker where
  address : Address
  topology : Topology
  /-- The number of the pool. -/
  pool : Option Nat
  ownership : Ownership
  registry : Registry
  registryPath : String

/-- A session of a tenant, on a schema that is up to date. -/
structure Session where
  connection : Connection
  outcome : Schema.Outcome

namespace Broker

/-- The broker after it was asked for a tenant's prefix, and the prefix if tenants have any. A tenant who
is new is registered and the registry written, even if that fails afterwards. -/
def assign (b : Broker) (tenant : Option String) :
    Files.Filing (Broker × Except Failure (Option TablePrefix)) :=
  match b.topology, tenant with
  | .separate, _ => return (b, .ok none)
  | .monolithic, none => return (b, .error (.invalidTenant "" .nameRequired))
  | .monolithic, some name =>
    match b.registry.register name with
    | .error failure => return (b, .error failure)
    | .ok (p, registry) => do
      let saved ←
        if registry.size = b.registry.size then pure (.ok ())
        else (registry.save b.registryPath).attempt
      return ({ b with registry }, saved.map fun _ => some p)

variable {σ : Type} [Server σ]

/-- The broker of a configuration for an address. The pool is made first, then the registry is read
from the configured file or else from the usual one. -/
def ofConfiguration (c : Configuration) (address : Address) (usualPath : String) :
    Action σ Broker := do
  let pool ← c.pool.mapM fun b => Pool.create address b.min b.max
  let registryPath := c.registryPath.getD usualPath
  let registry ← Action.filing (Registry.load registryPath)
  return {
    address, topology := c.topology, pool, ownership := c.ownership, registry, registryPath }

/-- Goes on with the prefix of a tenant. -/
def withPrefix {α : Type} (b : Broker) (tenant : Option String)
    (next : Option TablePrefix → Action σ α) : StateM (World σ) (Broker × Except Failure α) := do
  match ← (Action.filing (b.assign tenant)).attempt with
  | .error failure => return (b, .error failure)
  | .ok (b, .error failure) => return (b, .error failure)
  | .ok (b, .ok p) => return (b, ← (next p).attempt)

/-- A connection to the database. -/
def dial (b : Broker) : Action σ Connection :=
  match b.pool with
  | some pool => return .pooled b.address pool
  | none => Connection.direct b.address

/-- A connection to the database, under a lease if there is a prefix. -/
def dialFor (b : Broker) (p : Option TablePrefix) : Action σ Connection := do
  return { ← b.dial with lease := p.map fun p => ⟨p, b.ownership⟩ }

/-- Connects a tenant without touching the schema. -/
def connect (b : Broker) (tenant : Option String) :
    StateM (World σ) (Broker × Except Failure Connection) :=
  b.withPrefix tenant b.dialFor

end Broker

namespace Connection
variable {σ : Type} [Server σ]

/-- The schema that a connection works on. -/
def site (c : Connection) (tenant : Option String := none) : Schema.Site :=
  { documents := c.address.usesDocuments, tablePrefix := c.tablePrefix, tenant }

/-- Does something with a connection, and gives the connection as it is afterwards. -/
def use {α : Type} (c : Connection) (a : Step σ α) :
    StateM (World σ) (Except Failure α × Connection) := do
  let (result, s) := a.run.run ⟨c, ← get⟩
  set s.world
  return (result, s.connection)

end Connection

namespace Broker
variable {σ : Type} [Server σ]

/-- Brings the schema of a new connection up to date. If that fails the connection is put away. -/
def settle (tenant : Option String) (c : Connection) : Action σ Session := do
  match ← (c.use (Connection.perform (c.site tenant).ensure) : StateM (World σ) _) with
  | (.ok outcome, connection) => return ⟨connection, outcome⟩
  | (.error failure, connection) =>
    connection.drop
    throw failure

/-- Starts a session: connects a tenant and brings the schema up to date. -/
def start (b : Broker) (tenant : Option String) :
    StateM (World σ) (Broker × Except Failure Session) :=
  b.withPrefix tenant fun p => do settle tenant (← b.dialFor p)

end Broker
end Tenancy
