import Tenancy.Text.Case

/-!
# Names in a statement

A name without quotes is folded to lower case; a name between double quotes is taken as it stands,
with each doubled quote read as one. `quoteName` writes the quoted form.
-/

namespace Tenancy.Sql
open Tenancy.Text

/-- Doubles every double quote. -/
def doubleQuotes (name : List Char) : List Char :=
  name.flatMap fun c => if c = '"' then ['"', '"'] else [c]

/-- Reads every doubled double quote as one, from the left. -/
def singleQuotes : List Char → List Char
  | [] => []
  | [c] => [c]
  | c :: d :: cs =>
    if c = '"' ∧ d = '"' then '"' :: singleQuotes cs else c :: singleQuotes (d :: cs)

/-- What stands between the double quotes around a name, if it has both. -/
def unquoted? : List Char → Option (List Char)
  | c :: cs => if c = '"' ∧ cs.getLast? = some '"' then some cs.dropLast else none
  | [] => none

/-- The name that an identifier denotes. -/
def foldName (name : List Char) : List Char :=
  match unquoted? name with
  | some inner => singleQuotes inner
  | none => lower name

/-- A name between double quotes. -/
def quoteName (name : List Char) : List Char := '"' :: doubleQuotes name ++ ['"']

end Tenancy.Sql
