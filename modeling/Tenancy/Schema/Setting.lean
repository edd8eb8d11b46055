import Tenancy.Connection.Request
import Tenancy.Schema.Table

/-!
# Settings of a schema

A schema keeps settings: a document for each key, in a table of its own. A setting is stored twice, as
a document and as bytes; a schema without documents has the bytes only. It is read back from the
document or, where there is none, from the bytes. The version of the schema is such a setting.
-/

namespace Tenancy.Schema
open Connection Text

/-- What it is about a schema that its upkeep depends on. -/
structure Site where
  /-- Whether documents are stored as documents, and not as bytes alone. -/
  documents : Bool
  /-- The prefix of the schema's own tables. -/
  tablePrefix : Option TablePrefix := none
  /-- The tenant who is to own the prefix. -/
  tenant : Option String := none
  deriving DecidableEq

/-- The setting that holds the version. -/
def versionKey : String := "_schema_version"

/-- The setting that holds the name of the tenant who owns the prefix. -/
def tenantKey : String := "_tenant_name"

/-- The version that this library makes and understands. -/
def currentVersion : Int := 1

namespace Site

/-- The query for a setting. -/
def settingQuery (s : Site) : String :=
  let document := if s.documents then documentColumn else "NULL::jsonb"
  s!"SELECT {document}, {bytesColumn} FROM {settingsTable} WHERE setting = %s"

/-- The statement that writes a setting. -/
def settingStatement (s : Site) : String :=
  if s.documents then
    s!"INSERT INTO {settingsTable} (setting, {documentColumn}, {bytesColumn}, {changeColumn}) " ++
      "VALUES (%s, %s, %s, now()) " ++
      s!"ON CONFLICT (setting) DO UPDATE SET {documentColumn} = EXCLUDED.{documentColumn}, " ++
      s!"{bytesColumn} = EXCLUDED.{bytesColumn}, {changeColumn} = now()"
  else
    s!"INSERT INTO {settingsTable} (setting, {bytesColumn}, {changeColumn}) " ++
      "VALUES (%s, %s, now()) " ++
      s!"ON CONFLICT (setting) DO UPDATE SET {bytesColumn} = EXCLUDED.{bytesColumn}, " ++
      s!"{changeColumn} = now()"

/-- The document that bytes spell. -/
def document? (bytes : List UInt8) : Option Json :=
  ((utf8? bytes).map String.ofList).bind Json.parse?

/-- The document in a column of a row, or nothing where the server has none. -/
def documentAt (columns : List Column) (row : Row) (position : Nat) :
    Except Mismatch (Option Json) :=
  match columns[position]?, row[position]?.join with
  | none, _ => .error (.noColumn position)
  | some column, value =>
    if column.type = "json" ∨ column.type = "jsonb" then
      match value with
      | none => .ok none
      | some bytes =>
        match Cell.ofBytes column.type bytes with
        | .json v => .ok (some v)
        | _ => .error (.value position)
    else .error (.value position)

/-- The bytes in a column of a row, or nothing where the server has none. -/
def bytesAt (columns : List Column) (row : Row) (position : Nat) :
    Except Mismatch (Option (List UInt8)) :=
  match columns[position]? with
  | none => .error (.noColumn position)
  | some column =>
    if column.type = "bytea" then .ok row[position]?.join else .error (.value position)

/-- The setting that a row holds. -/
def settingOf (key sql : String) (columns : List Column) (row : Row) :
    Except Failure (Option Json) := do
  let mismatch (m : Mismatch) : Failure := .statement ⟨sql, .mismatch m⟩
  match ← (documentAt columns row 0).mapError mismatch with
  | some v => return some v
  | none =>
    match ← (bytesAt columns row 1).mapError mismatch with
    | none => return none
    | some bytes =>
      match document? bytes with
      | some v => return some v
      | none => throw (.schema (.undecodable key))

/-- The value of a setting, or nothing if it was never written. -/
def setting? (s : Site) (key : String) : Talk (Option Json) := do
  let cursor ← Talk.execute s.settingQuery [.text key]
  match ← Talk.fetchOne cursor with
  | none => return none
  | some row => .ofExcept (settingOf key s.settingQuery cursor.columns row)

/-- Writes a setting, in both representations if there are documents. -/
def setSetting (s : Site) (key : String) (value : Json) : Talk Unit := do
  let bytes := utf8Bytes value.text.toList
  let parameters :=
    if s.documents then [.text key, .document value, .bytes bytes] else [.text key, .bytes bytes]
  let _ ← Talk.execute s.settingStatement parameters

/-- The version that a setting holds: a whole number, or a text that spells one. A schema whose version
was never written has version zero. -/
def versionOf : Option Json → Except SchemaFault Int
  | none => .ok 0
  | some v =>
    let read : Except SchemaFault Int :=
      match v with
      | .int n => if minInt64 ≤ n ∧ n ≤ maxInt64 then .ok n else .error (.unreadableVersion v.text)
      | .str text =>
        match readInteger? minInt64 maxInt64 (trim text.toList) with
        | some n => .ok n
        | none => .error (.unreadableVersion text)
      | _ => .error (.unreadableVersion v.text)
    read.bind fun n => if n < 0 then .error (.unreadableVersion (toString n)) else .ok n

/-- The version of the schema. -/
def version (s : Site) : Talk Int := do
  .ofExcept ((versionOf (← s.setting? versionKey)).mapError .schema)

/-- Writes the version of the schema. -/
def writeVersion (s : Site) (version : Int) : Talk Unit := s.setSetting versionKey (.int version)

/-- Writes the version of the schema, unless it is older than the one that is stored. -/
def advanceVersion (s : Site) (version : Int) : Talk Unit := do
  let stored ← s.version
  if version < stored then .ofExcept (.error (.schema (.backwards stored version)))
  else s.writeVersion version

end Site
end Tenancy.Schema
