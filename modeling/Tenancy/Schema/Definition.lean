import Tenancy.Prefix
import Tenancy.Schema.Derivation

/-!
# Definitions of schema objects

`Table.definitions` lists the statements that bring a table to its described shape; running them
again does no harm. Tables are called by their plain names, which a lease changes on the way to the
server. The names of indexes, triggers and functions are single words that a lease leaves alone, so
they carry the prefix already here. `Table.objectNames` lists all of these names.
-/

namespace Tenancy.Schema

/-- A statement that defines a schema object. -/
inductive Definition where
  | createTable (table : String) (columns : List (String × String)) (primaryKey : List String)
  | addColumn (table column type : String)
  /-- A function for a trigger, which assigns an expression to each of some columns. -/
  | createFunction (name : String) (assignments : List (String × String))
  | dropTrigger (name table : String)
  /-- A trigger that runs the function of its own name whenever the document is written. -/
  | createTrigger (name table : String)
  | createIndex (name table : String) (method : IndexMethod) (elements : String)
  deriving DecidableEq, Repr

/-- The text of a definition. -/
def Definition.sql : Definition → String
  | .createTable table columns primaryKey =>
    let key := "PRIMARY KEY (" ++ ", ".intercalate primaryKey ++ ")"
    let lines := columns.map (fun (name, type) => s!"{name} {type}") ++ [key]
    s!"CREATE TABLE IF NOT EXISTS {table} (\n    " ++ ",\n    ".intercalate lines ++ "\n)"
  | .addColumn table column type =>
    s!"ALTER TABLE {table} ADD COLUMN IF NOT EXISTS {column} {type}"
  | .createFunction name assignments =>
    let body := assignments.map fun (column, value) => s!"    NEW.{column} := {value};\n"
    s!"CREATE OR REPLACE FUNCTION {name}() RETURNS trigger AS $sync$\nBEGIN\n" ++
      String.join body ++ "    RETURN NEW;\nEND;\n$sync$ LANGUAGE plpgsql"
  | .dropTrigger name table => s!"DROP TRIGGER IF EXISTS {name} ON {table}"
  | .createTrigger name table =>
    s!"CREATE TRIGGER {name} BEFORE INSERT OR UPDATE OF {documentColumn} ON {table} " ++
      s!"FOR EACH ROW EXECUTE FUNCTION {name}()"
  | .createIndex name table method elements =>
    s!"CREATE INDEX IF NOT EXISTS {name} ON {table} USING {method.name} ({elements})"

/-- What a schema is built for. -/
structure Blueprint where
  tablePrefix : Option TablePrefix := none
  /-- Whether documents are stored as documents, and not in their former representation alone. -/
  documents : Bool
  /-- The extensions that the server has. -/
  extensions : List String := []

namespace Blueprint

/-- The name of an object of a table: the prefix (unless the table is common), the table, a suffix. -/
def objectName (b : Blueprint) (t : Table) (suffix : String) : String :=
  let base := s!"{t.name}_{suffix}"
  match b.tablePrefix with
  | some p => if t.common then base else p.apply base
  | none => base

/-- Whether columns of a table are derived. -/
def derives (b : Blueprint) (t : Table) : Bool := b.documents && !t.derived.isEmpty

end Blueprint

namespace Table

/-- The statement that creates a table. -/
def creation (t : Table) (b : Blueprint) : Definition :=
  match t.layout with
  | .record key derived =>
    let documents (columns : List (String × String)) := if b.documents then columns else []
    let columns := [(key, "TEXT NOT NULL")] ++ documents [(documentColumn, "JSONB")] ++
      [(bytesColumn, "BYTEA"), (changeColumn, "TIMESTAMPTZ NOT NULL DEFAULT now()")] ++
      documents (derived.map fun c => (c.name, c.type.name))
    .createTable t.name columns [key]
  | .plain columns primaryKey => .createTable t.name columns primaryKey

/-- The statements that add the columns which a table created before documents may lack. -/
def missingColumns (t : Table) (b : Blueprint) : List Definition :=
  if b.documents && t.isRecord then
    .addColumn t.name documentColumn "JSONB" ::
      t.derived.map fun c => .addColumn t.name c.name c.type.name
  else []

/-- The statement that creates the function which computes the derived columns, if there are any. -/
def syncFunction (t : Table) (b : Blueprint) : Except Failure (Option Definition) :=
  if b.derives t then do
    let assignments ← t.derived.mapM fun c => do
      return (c.name, ← c.expression s!"NEW.{documentColumn}")
    return some (.createFunction (b.objectName t "sync") assignments)
  else return none

/-- The statements that put the function to work. -/
def syncTrigger (t : Table) (b : Blueprint) : List Definition :=
  let name := b.objectName t "sync"
  [.dropTrigger name t.name, .createTrigger name t.name]

/-- The indexes on the derived columns and on the whole document. -/
def coveringIndexes (t : Table) (b : Blueprint) : List Definition :=
  if b.derives t then
    t.derived.map (fun c =>
      .createIndex (b.objectName t s!"{c.name}_idx") t.name .btree c.name) ++
    [.createIndex (b.objectName t "json_gin") t.name .gin s!"{documentColumn} jsonb_path_ops"]
  else []

/-- Whether a described index can be built. -/
def builds (t : Table) (b : Blueprint) (i : Index) : Bool :=
  (!i.needsDocument || b.derives t) && i.requires.all (· ∈ b.extensions)

/-- The statements that create the indexes of a table. -/
def indexDefinitions (t : Table) (b : Blueprint) : List Definition :=
  t.coveringIndexes b ++ (t.indexes.filter (t.builds b)).map fun i =>
    .createIndex (b.objectName t i.suffix) t.name i.method i.elements

/-- The statements that bring a table to its described shape, in order. -/
def definitions (t : Table) (b : Blueprint) : Except Failure (List Definition) := do
  let sync ← t.syncFunction b
  let syncDefinitions := match sync with
    | some function => function :: t.syncTrigger b
    | none => []
  return t.creation b :: t.missingColumns b ++ syncDefinitions ++ t.indexDefinitions b

/-- The statement that computes the derived columns of every row anew, by writing each document onto
itself. -/
def backfill (t : Table) (b : Blueprint) : Option String :=
  if b.derives t then
    some (s!"UPDATE {t.name} SET {documentColumn} = {documentColumn} " ++
      s!"WHERE {documentColumn} IS NOT NULL")
  else none

/-- The names of all objects that `definitions` can create, whatever extensions there are. -/
def objectNames (t : Table) (b : Blueprint) : List String :=
  [b.objectName t "sync", b.objectName t "json_gin"] ++
    t.derived.map (fun c => b.objectName t s!"{c.name}_idx") ++
    t.indexes.map fun i => b.objectName t i.suffix

end Table
end Tenancy.Schema
