import Tenancy.Address
import Tenancy.Text.Word
import Tenancy.Url.Basic

/-!
# Connection descriptors

An address is written as a URL, as four fields between colons, or as the name of a database alone.
`Draft` is what such a text says, `Draft.complete` fills its gaps from the environment, and
`Address.read` does both. The environment never overrides what the text says.
-/

namespace Tenancy
open Text

/-- What a descriptor says of an address. -/
structure Draft where
  host : Option String := none
  port : Option Nat := none
  database : Option String := none
  user : Option String := none
  password : Option String := none
  options : Options := []
  deriving DecidableEq, Repr

/-- The values of variables, by name. -/
abbrev Environment := String → Option String

namespace Draft

/-- A text, unless it is empty. -/
def nonempty? (s : String) : Option String := if s = "" then none else some s

/-- What a URL says. Its path, without the slashes in front, is the name of the database. -/
def ofUrl (text : String) : Except DescriptorFault Draft := do
  let url ← (Url.read text).mapError .url
  let path := url.path.dropWhile (· = '/')
  if '/' ∈ path then throw (.nestedPath (String.ofList url.path))
  return {
    host := url.host.bind nonempty?
    port := url.port
    database := nonempty? (Url.decoded path)
    user := nonempty? (Url.decoded url.user)
    password := url.password.map Url.decoded
    options := .ofPairs url.queryPairs }

/-- What four fields between colons say; an empty one says nothing. -/
def ofFields (text : String) : Except DescriptorFault Draft := do
  let fields := (text.toList.splitOn ':').map String.ofList
  match fields with
  | [host, port, database, schema] =>
    let port ←
      if port = "" then pure none
      else match readNatural? maxWord16 port.toList with
        | some n => pure (some n)
        | none => throw (.portNumber port)
    return {
      host := nonempty? host
      port
      database := nonempty? database
      options := if schema = "" then [] else [("schema", schema)] }
  | _ => throw (.fieldCount fields.length)

/-- Whether a text can be the name of a database: it is not empty and has no blank and no mark of the
other forms in it. -/
def isBareName (text : List Char) : Bool :=
  text ≠ [] && !text.any fun c => isBlank c || c ∈ [':', '/', '@', '=', '?']

/-- What a descriptor says, and its form. -/
def read (text : String) : Except DescriptorFault (DescriptorForm × Draft) :=
  let trimmed := trim text.toList
  let text := String.ofList trimmed
  if standsIn "://".toList trimmed then (ofUrl text).map (.url, ·)
  else if ':' ∈ trimmed then (ofFields text).map (.fields, ·)
  else if isBareName trimmed then .ok (.bare, { database := some text })
  else .error (.unrecognised text)

/-- The address that a draft and the environment make. Variables that are set to nothing count as not
set. A database and a user must be given by one of the two; the host and the port have defaults. -/
def complete (d : Draft) (form : DescriptorForm) (env : Environment) :
    Except DescriptorFault Address := do
  let fromEnv? (name : String) : Option String := (env name).filter (· ≠ "")
  let port ←
    match d.port, fromEnv? "PGPORT" with
    | some port, _ => pure port
    | none, none => pure Address.standardPort
    | none, some text =>
      match readNatural? maxWord16 text.toList with
      | some port => pure port
      | none => throw (.environmentPort text)
  let some database := d.database <|> fromEnv? "PGDATABASE" | throw .noDatabase
  let some user := d.user <|> fromEnv? "PGUSER" | throw .noUser
  return {
    host := (d.host <|> fromEnv? "PGHOST").getD Address.standardHost
    port, database, user
    password := d.password <|> fromEnv? "PGPASSWORD"
    options := d.options
    form }

end Draft

/-- The address that a descriptor denotes in an environment. -/
def Address.read (text : String) (env : Environment) : Except Failure Address := do
  let (form, draft) ← (Draft.read text).mapError .descriptor
  let address ← (draft.complete form env).mapError .descriptor
  let _ ← address.tlsMode
  return address

end Tenancy
