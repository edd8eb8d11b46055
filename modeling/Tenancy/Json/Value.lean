import Tenancy.Number.Shortest

/-!
# JSON values

Numbers are whole where they fit sixty-four bits, signed or unsigned, and doubles otherwise. The
fields of an object are kept in the order of their names, each name once; `Json.object` makes an
object of any list of fields, of which the last of a name counts.
-/

namespace Tenancy

/-- A JSON value. -/
inductive Json where
  | null
  | bool (b : Bool)
  | int (n : Int)
  | float (x : Number.Binary64)
  | str (s : String)
  | arr (items : List Json)
  | obj (fields : List (String × Json))
  deriving Repr, BEq, Inhabited

namespace Json

/-- Puts a field in its place, in the stead of one with the same name. -/
def insertField (name : String) (value : Json) : List (String × Json) → List (String × Json)
  | [] => [(name, value)]
  | f :: fs =>
    if name < f.1 then (name, value) :: f :: fs
    else if name = f.1 then (name, value) :: fs
    else f :: insertField name value fs

/-- An object with the given fields. -/
def object (fields : List (String × Json)) : Json :=
  .obj (fields.foldl (fun fs f => insertField f.1 f.2 fs) [])

/-- The value of a field. -/
def field? (name : String) : Json → Option Json
  | .obj fields => (fields.find? fun f => f.1 = name).map (·.2)
  | _ => none

end Json
end Tenancy
