import Tenancy.Files
import Tenancy.Registry
import Tenancy.Toml.Reader
import Tenancy.Toml.Writer

/-!
# The registry in a file

A registry is kept as a document: a list of tables, each with the name and the prefix of a tenant.
Reading checks every prefix anew.
-/

namespace Tenancy.Registry

/-- The entry of a tenant as it is written. -/
def block (name found : String) : Toml.Block :=
  ⟨"[[tenants]]", [("name", .str name), ("prefix", .str found)]⟩

/-- The document of a registry. -/
def text (r : Registry) : String :=
  match r.toPairs with
  | [] => Toml.documentText [("tenants", .strings [])] []
  | pairs => Toml.documentText [] (pairs.map fun (name, found) => block name found)

/-- A tenant's entry. -/
def pair? (entry : Toml) : Option (String × String) := do
  let part (name : String) : Option String := do (← entry.member? ["name", "prefix"] name).string?
  return (← part "name", ← part "prefix")

/-- The entries of a document. A document without a list of tenants has none. -/
def pairs? (fields : List (String × Toml)) : Option (List (String × String)) :=
  match Toml.lookup? fields "tenants" with
  | none => some []
  | some (.array entries) => entries.mapM pair?
  | some _ => none

/-- The registry that a document spells. -/
def ofText (text : String) : Except Failure Registry :=
  match (Toml.parse? text).bind pairs? with
  | some pairs => ofPairs pairs
  | none => .error (.configuration .unreadable)

/-- Reads the registry from a file. Without a file there is no tenant. -/
def load (path : String) : Files.Filing Registry := do
  match ← Files.load path with
  | some text => .ofExcept (ofText text)
  | none => return empty

/-- Writes the registry into a file. -/
def save (r : Registry) (path : String) : Files.Filing Unit := Files.save path r.text

end Tenancy.Registry
