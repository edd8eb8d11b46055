import Tenancy.Prefix
import Tenancy.Text.Case

/-!
# Whose table a name is

Every tenant has tables of its own, and all tenants share some. `Ownership` says which names are
which, without regard to case; a name that is listed as both is shared. `Ownership.physical` is the
name under which the server knows a tenant's table.
-/

namespace Tenancy
open Text

/-- Puts a name in its place in a sorted list, unless it stands there. -/
def insertName (n : String) : List String → List String
  | [] => [n]
  | m :: ms =>
    if n = m then m :: ms else if n < m then n :: m :: ms else m :: insertName n ms

/-- A name that is put in is there along with the others. -/
@[simp]
theorem mem_insertName {n m : String} {ms : List String} :
    m ∈ insertName n ms ↔ m = n ∨ m ∈ ms := by
  induction ms with
  | nil => simp [insertName]
  | cons k ks ih =>
    simp only [insertName]
    split
    · next h => subst h; simp
    split
    · simp
    · simp only [List.mem_cons, ih, or_left_comm]

/-- Names in order, each once and in lower case. -/
def nameSet (names : List String) : List String :=
  names.foldl (fun set n => insertName (lowerString n) set) []

/-- The tables that each tenant owns and those that all tenants have in common. -/
structure Ownership where
  own : List String
  common : List String
  deriving DecidableEq, Repr

namespace Ownership

/-- What is listed as common is common, also where it is listed as a tenant's own. -/
def ofLists (own common : List String) : Ownership :=
  let common := nameSet common
  ⟨(nameSet own).filter (· ∉ common), common⟩

/-- The tables of every database: thirteen of each tenant and two for all. -/
def standard : Ownership :=
  ofLists
    ["person", "family", "event", "place", "source", "citation", "repository", "media", "note",
      "tag", "metadata", "reference", "gender_stats"]
    ["name_group", "surname"]

/-- Makes a table each tenant's own, unless it is common. -/
def withOwn (o : Ownership) (name : String) : Ownership :=
  let name := lowerString name
  if name ∈ o.common then o else { o with own := insertName name o.own }

/-- Makes a table common. -/
def withCommon (o : Ownership) (name : String) : Ownership :=
  let name := lowerString name
  ⟨o.own.filter (· ≠ name), insertName name o.common⟩

/-- Whether a table is each tenant's own. -/
def isOwn (o : Ownership) (name : String) : Bool := lowerString name ∈ o.own

/-- Whether all tenants have a table in common. -/
def isCommon (o : Ownership) (name : String) : Bool := lowerString name ∈ o.common

/-- The name under which the server knows a table of the tenant with prefix `p`. -/
def physical (o : Ownership) (name : String) (p : TablePrefix) : String :=
  if o.isOwn name then p.apply (lowerString name) else name

end Ownership
end Tenancy
