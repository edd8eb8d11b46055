import Tenancy.Number.Shortest

/-!
# TOML values

What a TOML document can hold. A table keeps its keys in the order of the document. `Toml.member?`
looks a part of a record up: by its key in a table, or by its place in an array.
-/

namespace Tenancy

/-- A TOML value. -/
inductive Toml where
  | str (s : String)
  | int (n : Int)
  | float (x : Number.Binary64)
  | bool (b : Bool)
  /-- A date, a time of day, or both. -/
  | time (text : String)
  | array (items : List Toml)
  | table (fields : List (String × Toml))
  deriving Repr, Inhabited

namespace Toml

/-- The value of a key. -/
def lookup? (fields : List (String × Toml)) (key : String) : Option Toml :=
  (fields.find? fun f => f.1 = key).map (·.2)

/-- The part of a record called `name`, for a record whose parts are `names`: by its key in a table,
by its place in an array. A time has no parts. -/
def member? (names : List String) (v : Toml) (name : String) : Option Toml :=
  match v with
  | .table fields => lookup? fields name
  | .array items => items[names.idxOf name]?
  | _ => none

/-- Whether a value can be read as a record. -/
def isRecord : Toml → Bool
  | .table _ | .array _ | .time _ => true
  | _ => false

/-- A text. -/
def string? : Toml → Option String
  | .str s => some s
  | _ => none

/-- A list of texts. -/
def strings? : Toml → Option (List String)
  | .array items => items.mapM string?
  | _ => none

/-- A number that is not negative. -/
def natural? : Toml → Option Nat
  | .int (.ofNat n) => some n
  | _ => none

/-- Whether a value holds nothing. -/
def isEmpty : Toml → Bool
  | .array items => items.isEmpty
  | .table fields => fields.isEmpty
  | _ => false

/-- A choice among names: a name, or a table with that name alone and nothing under it. -/
def choice? : Toml → Option String
  | .str s => some s
  | .table [(name, v)] => if v.isEmpty then some name else none
  | _ => none

end Toml
end Tenancy
