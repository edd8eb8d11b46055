import Tenancy.Prefix

/-!
# The registry of tenants

Different names can have one prefix, so every prefix that was handed out is kept with the name it was
handed to. `Registry.register` gives a name its prefix, unless another name has it.
-/

namespace Tenancy

/-- Prefixes and the tenants they belong to, in the order of the prefixes and each once. -/
structure Registry where
  entries : List (TablePrefix × String) := []
  deriving DecidableEq

namespace Registry

/-- No tenant at all. -/
def empty : Registry := {}

/-- How many tenants are registered. -/
def size (r : Registry) : Nat := r.entries.length

/-- The tenant to whom a prefix belongs. -/
def tenant? (r : Registry) (p : TablePrefix) : Option String :=
  (r.entries.find? fun e => e.1 = p).map (·.2)

/-- Puts an entry with a new prefix in its place. -/
def insertEntry (p : TablePrefix) (name : String) :
    List (TablePrefix × String) → List (TablePrefix × String)
  | [] => [(p, name)]
  | e :: es => if p.text < e.1.text then (p, name) :: e :: es else e :: insertEntry p name es

/-- The prefix of the tenant called `name`, and the registry in which it is that tenant's. A name may
be registered again; a prefix that belongs to another name is refused. -/
def register (r : Registry) (name : String) : Except Failure (TablePrefix × Registry) := do
  let p ← TablePrefix.ofName name
  match r.tenant? p with
  | some owner =>
    if owner = name then .ok (p, r) else .error (.collision p.text owner name)
  | none => .ok (p, ⟨insertEntry p name r.entries⟩)

/-- The registry that a list of names and their prefixes spells: every prefix must be the name's own,
and no two names may share one. -/
def ofPairs (pairs : List (String × String)) : Except Failure Registry :=
  pairs.foldlM (fun r (name, found) => do
    let p ← TablePrefix.ofName name
    if p.text = found then
      let (_, r) ← r.register name
      return r
    else throw (.configuration (.registryEntry name found p.text))) empty

/-- The names and their prefixes, as they are written to a file. -/
def toPairs (r : Registry) : List (String × String) := r.entries.map fun e => (e.2, e.1.text)

end Registry
end Tenancy
