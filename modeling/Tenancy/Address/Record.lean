import Tenancy.Address
import Tenancy.Json.Value

/-!
# Addresses as data

An address is kept as an object with a field for each of its parts. The password is never written,
but it may be given when an address is read.
-/

namespace Tenancy.Address

/-- The address as data, without its password. -/
def toJson (a : Address) : Json :=
  .object [
    ("host", .str a.host), ("port", .int a.port), ("dbname", .str a.database),
    ("user", .str a.user), ("options", .object (a.options.map fun o => (o.1, .str o.2))),
    ("form", .str a.form.name)]

/-- A text. -/
def string? : Json → Option String
  | .str s => some s
  | _ => none

/-- The form of a name. -/
def formNamed? (name : String) : Option DescriptorForm :=
  [.url, .fields, .bare].find? fun form : DescriptorForm => form.name = name

/-- The form of an address: its name, or an object with nothing under its name. -/
def form? : Json → Option DescriptorForm
  | .str name => formNamed? name
  | .obj [(name, .null)] => formNamed? name
  | _ => none

/-- Options: an object of texts. -/
def options? : Json → Option Options
  | .obj fields => fields.mapM fun f => (string? f.2).map (f.1, ·)
  | _ => none

/-- The fields of an address in their order. A list of all their values is an address too. -/
def fieldNames : List String := ["host", "port", "dbname", "user", "password", "options", "form"]

/-- Looks a field up in an object, or by its place in a list. -/
def field? (v : Json) (name : String) : Option Json :=
  match v with
  | .obj _ => v.field? name
  | .arr values => if values.length = fieldNames.length then (values[fieldNames.idxOf name]?) else none
  | _ => none

/-- Reads an address from data. The password and the options may be left out. -/
def ofJson? (v : Json) : Option Address := do
  let host ← string? (← field? v "host")
  let port ← match ← field? v "port" with
    | .int n => if 0 ≤ n ∧ n ≤ 65535 then some n.toNat else none
    | _ => none
  let database ← string? (← field? v "dbname")
  let user ← string? (← field? v "user")
  let password ← match field? v "password" with
    | none | some .null => some none
    | some p => (string? p).map some
  let options ← match field? v "options" with
    | none => some []
    | some v => options? v
  let form ← form? (← field? v "form")
  return { host, port, database, user, password, options, form }

end Tenancy.Address
