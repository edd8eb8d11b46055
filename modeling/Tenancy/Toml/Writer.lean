import Tenancy.Toml.Text
import Tenancy.Toml.Value

/-!
# Writing TOML

A document is written with its plain entries first and then its tables, each after a blank line. A
list of more than one item takes a line for each.
-/

namespace Tenancy.Toml

/-- A list of texts as it is written. -/
def listText (items : List String) : String :=
  match items with
  | [] => "[]"
  | [item] => "[" ++ item ++ "]"
  | items => "[\n" ++ String.join (items.map fun item => s!"    {item},\n") ++ "]"

/-- A value that is written on the line of its key or, as a list, below it. -/
inductive Entry where
  | str (s : String)
  | int (n : Nat)
  | strings (items : List String)
  deriving DecidableEq, Repr

/-- An entry's value as it is written. -/
def Entry.text : Entry → String
  | .str s => stringText s
  | .int n => toString n
  | .strings items => listText (items.map stringText)

/-- Entries as they are written, one after the other. -/
def entriesText (entries : List (String × Entry)) : String :=
  String.join (entries.map fun (key, entry) => s!"{key} = {entry.text}\n")

/-- A table of a document: its header and its entries. -/
structure Block where
  header : String
  entries : List (String × Entry)

/-- The text of a document. -/
def documentText (entries : List (String × Entry)) (blocks : List Block) : String :=
  let block (b : Block) : String := s!"{b.header}\n" ++ entriesText b.entries
  let parts := if entries.isEmpty then [] else [entriesText entries]
  "\n".intercalate (parts ++ blocks.map block)

end Tenancy.Toml
