import Tenancy.Proofs.Json.Scalars
import Tenancy.Proofs.Schema.Tables
import Tenancy.Proofs.Schema.Wording

/-!
# Ledgers

What the upkeep of a schema relies on where it keeps settings in an engine: `Ledger` says of each statement
about a table of settings what it does, and of all the others that they leave the entries alone. What an
entry says depends on whether documents are used (`Site.decode`). A value that was written is what the entry
says from then on (`Site.decode_written`), and where nothing was written before, it is so for every site
(`Site.decode_written_blank`).
-/

namespace Tenancy
namespace Schema
open Connection Text

/-! ## Entries -/

/-- What a table of settings has for a key. -/
structure SettingEntry where
  /-- The document as it travels. -/
  document : Option (List UInt8)
  bytes : Option (List UInt8)
  deriving DecidableEq, Repr

/-- The row that a query for the setting gives. -/
def SettingEntry.row (documents : Bool) (x : SettingEntry) : Row :=
  [if documents then x.document else none, x.bytes]

/-- The columns of such a row. -/
def settingColumns : List Column := [⟨documentColumn, "jsonb"⟩, ⟨bytesColumn, "bytea"⟩]

/-- What an entry says, if there is one. -/
def Site.decode (s : Site) (key : String) : Option SettingEntry → Except Failure (Option Json)
  | none => .ok none
  | some x => settingOf key s.settingQuery settingColumns (x.row s.documents)

namespace Site

/-- What the first row says about a setting, if there is a row. -/
def told (s : Site) (key : String) (columns : List Column) (row : Option Row) :
    Except Failure (Option Json) :=
  row.elim (.ok none) (settingOf key s.settingQuery columns)

/-- The query for a setting, with what comes of it as a value. -/
def query (s : Site) (key : String) : Talk (Except Failure (Option Json)) := do
  let cursor ← Talk.execute s.settingQuery [.text key]
  let row ← Talk.fetchOne cursor
  return s.told key cursor.columns row

/-- A setting is what the query for it gives, if that is no failure. -/
lemma setting?_eq (s : Site) (key : String) : s.setting? key = s.query key >>= .ofExcept := by
  rw [setting?, query, bind_assoc]
  congr
  funext cursor
  rw [bind_assoc]
  refine bind_congr fun row => ?_
  cases row with
  | none => rfl
  | some row => rfl

end Site

/-- Columns of the same types are read alike. -/
lemma settingOf_columns {key sql : String} {columns : List Column} (row : Row)
    (types : columns.map (·.type) = ["jsonb", "bytea"]) :
    Site.settingOf key sql columns row = Site.settingOf key sql settingColumns row := by
  obtain ⟨a, rest, rfl, first, types⟩ := List.map_eq_cons_iff.1 types
  obtain ⟨b, rest, rfl, second, types⟩ := List.map_eq_cons_iff.1 types
  obtain rfl := List.map_eq_nil_iff.1 types
  simp [Site.settingOf, Site.documentAt, Site.bytesAt, settingColumns, first, second]

/-- The first row of a reply with the row of an entry says what the entry says. -/
lemma Site.decode_eq_told {s : Site} {key : String} {x : Option SettingEntry} {columns : List Column}
    {rows : List Row} (types : columns.map (·.type) = ["jsonb", "bytea"])
    (eq : rows = x.toList.map (SettingEntry.row s.documents)) :
    s.decode key x = s.told key columns rows.head? := by
  subst eq
  cases x with
  | none => rfl
  | some x =>
    change _ = settingOf key s.settingQuery columns (x.row s.documents)
    rw [settingOf_columns _ types]
    rfl

/-- There are columns where there are types. -/
lemma isEmpty_of_types {columns : List Column} (types : columns.map (·.type) = ["jsonb", "bytea"]) :
    columns.isEmpty = false := by
  cases columns with
  | nil => cases types
  | cons column rest => rfl

/-- The values that upkeep writes. -/
def Recorded : Json → Prop
  | .int n => n = currentVersion
  | .str _ => True
  | _ => False

/-- A value that can be recorded is parsed again. -/
lemma Recorded.parse {value : Json} (h : Recorded value) : Json.parse? value.text = some value := by
  cases value with
  | int n =>
    obtain rfl : n = currentVersion := h
    rfl
  | str s => exact Json.parse_str s
  | _ => exact h.elim

/-- Whether an entry is the one that is there when a value was written in place of `old`. -/
def Written (documents : Bool) (value : Json) (old new : Option SettingEntry) : Prop :=
  ∃ x, new = some x ∧ x.bytes = some (utf8Bytes value.text.toList) ∧
    if documents then ∃ bs, x.document = some bs ∧ Cell.ofBytes "jsonb" bs = .json value
    else x.document = old.bind (·.document)

namespace Site
variable {s : Site} {key : String} {value : Json} {old new : Option SettingEntry} {x : SettingEntry}

/-- A document is read from the bytes of its text. -/
lemma document_utf8Bytes (h : Json.parse? value.text = some value) :
    document? (utf8Bytes value.text.toList) = some value := by
  simp [document?, utf8_utf8Bytes, h]

/-- Where documents are in use a setting is read from its document. -/
lemma decode_document {bs : List UInt8} (documents : s.documents = true)
    (document : x.document = some bs) (cell : Cell.ofBytes "jsonb" bs = .json value) :
    s.decode key (some x) = .ok (some value) := by
  simp [decode, settingOf, SettingEntry.row, documents, document, documentAt, settingColumns, cell]
  rfl

/-- Otherwise, and without one, it is read from its bytes. -/
lemma decode_bytes (none : s.documents = true → x.document = none)
    (bytes : x.bytes = some (utf8Bytes value.text.toList)) (h : Json.parse? value.text = some value) :
    s.decode key (some x) = .ok (some value) := by
  have first : (if s.documents then x.document else Option.none) = Option.none := by
    split
    · next documents => exact none documents
    · rfl
  simp [decode, settingOf, SettingEntry.row, first, bytes, documentAt, bytesAt, settingColumns,
    bind, Except.bind, document_utf8Bytes h]
  rfl

/-- A value that can be read back is what the entry says when it was written. -/
theorem decode_of_parse (faithful : Json.parse? value.text = some value)
    (written : Written s.documents value old new) : s.decode key new = .ok (some value) := by
  obtain ⟨x, rfl, bytes, document⟩ := written
  cases documents : s.documents with
  | true =>
    rw [documents, if_pos rfl] at document
    obtain ⟨bs, document, cell⟩ := document
    exact decode_document documents document cell
  | false =>
    refine decode_bytes (fun used => ?_) bytes faithful
    rw [documents] at used
    cases used

/-- What was written is what the entry says. -/
theorem decode_written (recorded : Recorded value) (written : Written s.documents value old new) :
    s.decode key new = .ok (some value) := decode_of_parse recorded.parse written

/-- Where there was nothing before, it is so whether documents are used or not. -/
theorem decode_written_blank {documents : Bool} (recorded : Recorded value)
    (written : Written documents value none new) : s.decode key new = .ok (some value) := by
  obtain ⟨x, rfl, bytes, document⟩ := written
  cases documents with
  | true =>
    obtain ⟨bs, document, cell⟩ := document
    cases used : s.documents with
    | true => exact decode_document used document cell
    | false =>
      refine decode_bytes (fun used' => ?_) bytes recorded.parse
      rw [used] at used'
      cases used'
  | false => exact decode_bytes (fun _ => document) bytes recorded.parse

end Site

/-- The parameters with which a setting is written. -/
def settingParameters (documents : Bool) (key : String) (value : Json) : List Parameter :=
  let bytes := utf8Bytes value.text.toList
  if documents then [.text key, .document value, .bytes bytes] else [.text key, .bytes bytes]

end Schema

namespace Engine
open Schema Connection

/-- The tables of an engine, of which those of settings are known. -/
structure Ledger (e : Engine) extends Tables e where
  present : Contents → Bool
  /-- The entry of a key. -/
  stored : Contents → String → Option SettingEntry
  /-- The question whether there is a table is answered. -/
  asks : ∀ {table : String} (d : e.Data), SettingsName table →
    (e.effect existsQuery [.text table] d).2 = d ∧
      truth? (e.effect existsQuery [.text table] d).1 = .ok (present (contents d table))
  locks : ∀ (key : String) (d : e.Data), (e.effect Sent.lock [.text key] d).2 = d
  /-- A query for a setting gives the row of its entry. -/
  reads : ∀ (documents : Bool) {table : String} (key : String) (d : e.Data), SettingsName table →
    present (contents d table) →
    let (reply, d') := e.effect (Sent.settingQuery documents table) [.text key] d
    d' = d ∧ reply.columns.map (·.type) = ["jsonb", "bytea"] ∧
      reply.rows = (stored (contents d table) key).toList.map (SettingEntry.row documents)
  /-- A setting that is written replaces its entry, and no other one. -/
  writes : ∀ (documents : Bool) {table : String} (key : String) {value : Json} (d : e.Data),
    SettingsName table → Recorded value → present (contents d table) →
    let d' := (e.effect (Sent.settingStatement documents table)
      (settingParameters documents key value) d).2
    present (contents d' table) ∧
      Written documents value (stored (contents d table) key) (stored (contents d' table) key) ∧
      ∀ other ≠ key, stored (contents d' table) other = stored (contents d table) other
  creates : ∀ (documents : Bool) {table : String} (d : e.Data), SettingsName table →
    present (contents (e.effect (Sent.creation documents table) [] d).2 table)
  /-- What builds a schema leaves entries alone. -/
  builds : ∀ (s : Site) {c : Connection} {sql : String} (d : e.Data), Legible c →
    s.Construction sql →
    let d' := (e.effect (c.adapt sql) [] d).2
    let table := c.table settingsTable
    (present (contents d table) → present (contents d' table)) ∧
      ∀ key, stored (contents d' table) key = stored (contents d table) key
  /-- Questions have the parameters that they take. -/
  fits : ∀ {table : String}, SettingsName table → ∀ key : String,
    e.misfit existsQuery [.text table] = none ∧ e.misfit Sent.lock [.text key] = none ∧
      ∀ documents, e.misfit (Sent.settingQuery documents table) [.text key] = none
  fitsPlaces : ∀ sql ∈ savepointStatements, e.misfit sql [] = none

end Engine
end Tenancy
