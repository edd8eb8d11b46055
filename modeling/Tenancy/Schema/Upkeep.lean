import Tenancy.Schema.Definition
import Tenancy.Schema.Inventory
import Tenancy.Schema.Scope
import Tenancy.Schema.Setting

/-!
# Upkeep of a schema

`Site.ensure` brings a schema to the current version: it creates the tables, or upgrades them, or finds
that nothing is to be done. It holds locks while it works, so that two sessions never work on one
schema at once: first that of the prefix and then, for tables that all tenants have in common, one for
all. At the end the tenant claims the prefix, once and for all.
-/

namespace Tenancy.Schema
open Connection

/-- What had to be done to a schema. -/
inductive Outcome where
  | created
  | upgraded (former : Int)
  | upToDate
  deriving DecidableEq, Repr

/-- An outcome as it is reported. -/
def Outcome.text : Outcome → String
  | created => "Created"
  | upgraded former => s!"Upgraded \x7b from: {former} \x7d"
  | upToDate => "UpToDate"

/-- The extensions that are used where the server has them. -/
def optionalExtensions : List String := ["pg_trgm", "btree_gin", "fuzzystrmatch", "unaccent"]

/-- The savepoint around each attempt to enable an extension. -/
def extensionSavepoint : String := "pgtenant_ext"

namespace Site

/-- The key of the lock for the tables that all tenants have in common. -/
def commonLock : String := "pgtenant.schema.shared"

/-- The key of the lock for the tables with one prefix. -/
def prefixLock (s : Site) : String :=
  "pgtenant.schema." ++ (s.tablePrefix.map (·.text)).getD ""

/-- Waits for a lock, and holds it to the end of the transaction. -/
def lock (key : String) : Talk Unit := do
  let _ ← Talk.execute "SELECT pg_advisory_xact_lock(hashtext(%s))" [.text key]

/-- What the tables of the schema are built for. -/
def blueprint (s : Site) (extensions : List String) : Blueprint :=
  { tablePrefix := s.tablePrefix, documents := s.documents, extensions }

/-- Tries to enable each of some extensions. A savepoint keeps a refusal from spoiling the transaction.
Gives those that are enabled. -/
def tryExtensions : (extensions : List String) → Talk (List String)
  | [] => return []
  | extension :: extensions => do
    Talk.perform s!"SAVEPOINT {extensionSavepoint}"
    match ← (Talk.perform s!"CREATE EXTENSION IF NOT EXISTS {extension}").attempt with
    | .ok () =>
      Talk.perform s!"RELEASE SAVEPOINT {extensionSavepoint}"
      return extension :: (← tryExtensions extensions)
    | .error _ =>
      Talk.perform s!"ROLLBACK TO SAVEPOINT {extensionSavepoint}"
      tryExtensions extensions

/-- Runs statements one after the other. -/
def performAll : List String → Talk Unit
  | [] => return ()
  | sql :: sqls => do
    Talk.perform sql
    performAll sqls

/-- Brings each of some tables to its described shape. -/
def createEach (b : Blueprint) : List Table → Talk Unit
  | [] => return ()
  | t :: ts => do
    let definitions ← .ofExcept (t.definitions b)
    performAll (definitions.map (·.sql))
    createEach b ts

/-- Creates every table. -/
def createTables (s : Site) : Talk Unit := do
  let extensions ← tryExtensions optionalExtensions
  createEach (s.blueprint extensions) Inventory.tables

/-- Creates what is missing and computes the derived columns of all rows anew. -/
def upgrade (s : Site) : Talk Unit := do
  s.createTables
  performAll (Inventory.tables.filterMap fun t => t.backfill (s.blueprint []))

/-- Makes the tenant the owner of the prefix, unless another tenant is. -/
def claim (s : Site) : Talk Unit :=
  match s.tablePrefix, s.tenant with
  | some p, some tenant => do
    match ← s.setting? tenantKey with
    | none => s.setSetting tenantKey (.str tenant)
    | some (.str owner) =>
      if owner = tenant then return () else .ofExcept (.error (.collision p.text owner tenant))
    | some v => .ofExcept (.error (.schema (.ownerSetting v.text)))
  | _, _ => return ()

/-- Creates or upgrades the tables, if need be, and writes the version. -/
def bringUpToDate (s : Site) : Talk Outcome := do
  if ← Talk.tableExists settingsTable then
    let stored ← s.version
    if currentVersion < stored then
      .ofExcept (.error (.schema (.newerVersion stored currentVersion)))
    else if stored < currentVersion then
      lock commonLock
      s.upgrade
      s.writeVersion currentVersion
      return .upgraded stored
    else return .upToDate
  else
    lock commonLock
    s.createTables
    s.writeVersion currentVersion
    return .created

/-- Brings the schema to the current version and claims its prefix. -/
def ensure (s : Site) : Talk Outcome :=
  Scope.around do
    lock s.prefixLock
    let outcome ← s.bringUpToDate
    s.claim
    return outcome

/-- Creates every table that is missing. -/
def createAll (s : Site) : Talk Unit :=
  Scope.around do
    lock commonLock
    s.createTables

/-- Enables the optional extensions that the server allows, and gives them in order. -/
def enableExtensions : Talk (List String) :=
  Scope.around do return (← tryExtensions optionalExtensions).mergeSort (· ≤ ·)

end Site
end Tenancy.Schema
