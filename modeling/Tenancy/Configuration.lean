import Tenancy.Files
import Tenancy.Ownership
import Tenancy.Toml.Reader
import Tenancy.Toml.Writer

/-!
# Configuration

What a configuration file says: where the database is, whether tenants share it, how many connections
are kept, where the registry is, and which tables there are besides the standard ones. Everything may
be left out; what is not known is passed over.
-/

namespace Tenancy

/-- How tenants and databases go together. -/
inductive Topology where
  /-- A database for each tenant. -/
  | separate
  /-- One database for all, in which tenants are told apart by their prefixes. -/
  | monolithic
  deriving DecidableEq, Repr

/-- The name of a topology. -/
def Topology.name : Topology → String
  | .separate => "separate"
  | .monolithic => "monolithic"

/-- The topology of a name. -/
def Topology.ofName? (name : String) : Option Topology :=
  [.separate, .monolithic].find? fun t : Topology => t.name = name

/-- How many connections a pool opens at once and how many it has at most. -/
structure PoolBounds where
  min : Nat := 1
  max : Nat := 8
  deriving DecidableEq, Repr

/-- Whether a pool can have these bounds. -/
def PoolBounds.isValid (b : PoolBounds) : Bool := b.max ≠ 0 && b.min ≤ b.max

/-- What a configuration file says. -/
structure Configuration where
  descriptor : Option String := none
  topology : Topology := .separate
  pool : Option PoolBounds := none
  registryPath : Option String := none
  /-- Tables that each tenant owns, besides the standard ones. -/
  own : List String := []
  /-- Tables that all tenants have in common, besides the standard ones. -/
  common : List String := []
  deriving DecidableEq, Repr

namespace Configuration

/-- Whose table a name is, by the standard and by the configuration. -/
def ownership (c : Configuration) : Ownership :=
  c.common.foldl .withCommon (c.own.foldl .withOwn .standard)

/-- A part of a record, which may be left out. -/
def optional {α : Type} (v : Option Toml) (read : Toml → Option α) : Option (Option α) :=
  match v with
  | none => some none
  | some v => (read v).map some

/-- Reads pool bounds. -/
def pool? (v : Toml) : Option PoolBounds := do
  let part (name : String) : Option Nat := do (← v.member? ["min", "max"] name).natural?
  return ⟨← part "min", ← part "max"⟩

/-- Reads the lists of tables. -/
def tables? (v : Toml) : Option (List String × List String) := do
  let part (name : String) : Option (List String) := do
    return (← optional (v.member? ["prefixed", "shared"] name) Toml.strings?).getD []
  if v.isRecord then return (← part "prefixed", ← part "shared") else none

/-- Reads the fields of a document. -/
def ofFields? (fields : List (String × Toml)) : Option Configuration := do
  let part {α : Type} (name : String) (read : Toml → Option α) : Option (Option α) :=
    optional (Toml.lookup? fields name) read
  let descriptor ← part "descriptor" Toml.string?
  let topology ← part "topology" fun v => v.choice?.bind Topology.ofName?
  let pool ← part "pool" pool?
  let registryPath ← part "registry_path" Toml.string?
  let (own, common) := (← part "tables" tables?).getD ([], [])
  return { descriptor, topology := topology.getD .separate, pool, registryPath, own, common }

/-- Refuses bounds that no pool can have. -/
def checked (c : Configuration) : Except Failure Configuration :=
  match c.pool with
  | some b => if b.isValid then .ok c else .error (.configuration (.poolBounds b.min b.max))
  | none => .ok c

/-- The configuration that a document spells. -/
def ofText (text : String) : Except Failure Configuration :=
  match (Toml.parse? text).bind ofFields? with
  | some c => c.checked
  | none => .error (.configuration .unreadable)

/-- The document of a configuration. -/
def text (c : Configuration) : String :=
  let entry (key : String) (value : Option String) : List (String × Toml.Entry) :=
    match value with
    | some s => [(key, .str s)]
    | none => []
  let pool := match c.pool with
    | some b => [⟨"[pool]", [("min", .int b.min), ("max", .int b.max)]⟩]
    | none => []
  Toml.documentText
    (entry "descriptor" c.descriptor ++ [("topology", .str c.topology.name)] ++
      entry "registry_path" c.registryPath)
    (pool ++ [⟨"[tables]", [("prefixed", .strings c.own), ("shared", .strings c.common)]⟩])

/-- Reads the configuration from a file. Without a file nothing is configured. -/
def load (path : String) : Files.Filing Configuration := do
  match ← Files.load path with
  | some text => .ofExcept (ofText text)
  | none => return {}

end Configuration
end Tenancy
