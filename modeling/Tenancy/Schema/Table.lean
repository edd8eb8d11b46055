import Tenancy.Schema.Path

/-!
# Tables

A table is described once, and everything else follows from the description: its columns, the columns
that are derived from a document, its indexes and the objects that keep derived columns up to date.
-/

namespace Tenancy.Schema

/-- The types of derived columns. -/
inductive ColumnType where
  | text
  | integer
  | boolean
  deriving DecidableEq, Repr

/-- The server's name of a type. -/
def ColumnType.name : ColumnType → String
  | .text => "TEXT"
  | .integer => "BIGINT"
  | .boolean => "BOOLEAN"

/-- A column that is computed from the document whenever a row is written. -/
structure DerivedColumn where
  name : String
  path : String
  type : ColumnType
  deriving DecidableEq, Repr

/-- The kinds of indexes. -/
inductive IndexMethod where
  | btree
  | gin
  deriving DecidableEq, Repr

/-- The server's name of a kind of index. -/
def IndexMethod.name : IndexMethod → String
  | .btree => "btree"
  | .gin => "gin"

/-- An index besides those on the derived columns. -/
structure Index where
  /-- What follows the table's name in the name of the index. -/
  suffix : String
  method : IndexMethod
  /-- What is indexed, as it stands between the parentheses. -/
  elements : String
  /-- The extension without which the server cannot build the index. -/
  requires : Option String := none
  /-- Whether the index is about derived columns. -/
  needsDocument : Bool := true
  deriving DecidableEq, Repr

/-- The columns of a table. -/
inductive Layout where
  /-- A key, a document, its former representation, the time of the last change, and columns derived
  from the document. -/
  | record (key : String) (derived : List DerivedColumn)
  /-- Columns with their types, and those that make the key. -/
  | plain (columns : List (String × String)) (primaryKey : List String)
  deriving DecidableEq, Repr

/-- The description of a table. -/
structure Table where
  name : String
  /-- Whether all tenants have the table in common. -/
  common : Bool
  layout : Layout
  indexes : List Index
  deriving DecidableEq, Repr

/-- The derived columns of a table. -/
def Table.derived (t : Table) : List DerivedColumn :=
  match t.layout with
  | .record _ derived => derived
  | .plain _ _ => []

/-- Whether the rows of a table hold documents. -/
def Table.isRecord (t : Table) : Bool :=
  match t.layout with
  | .record _ _ => true
  | .plain _ _ => false

/-- The column that holds the document. -/
def documentColumn : String := "json_data"

/-- The column that holds the former representation of the document. -/
def bytesColumn : String := "blob_data"

/-- The column that holds the time of the last change. -/
def changeColumn : String := "change_time"

/-- The table that holds the settings of a schema. -/
def settingsTable : String := "metadata"

end Tenancy.Schema
