import Tenancy.Schema.Table

/-!
# The tables of a schema

The tables that every schema has: a record for each kind of entity, the settings, and plain tables
for references and for the statistics of names. Two of them are common to all tenants.
-/

namespace Tenancy.Schema.Inventory

/-- A derived column of text. -/
def text (name path : String) : DerivedColumn := ⟨name, path, .text⟩

/-- A derived column of integers. -/
def integer (name path : String) : DerivedColumn := ⟨name, path, .integer⟩

/-- A derived column of truth values. -/
def boolean (name path : String) : DerivedColumn := ⟨name, path, .boolean⟩

/-- An index that keeps derived columns in order. -/
def btree (suffix elements : String) : Index := { suffix, elements, method := .btree }

/-- An index for searching words that are nearly the same. -/
def trigram (suffix elements : String) : Index :=
  { suffix, elements, method := .gin, requires := some "pg_trgm" }

/-- The table of one kind of entity. -/
def entity (name : String) (derived : List DerivedColumn) (indexes : List Index) : Table :=
  { name, common := false, layout := .record "handle" derived, indexes }

/-- The people. -/
def person : Table :=
  entity "person"
    [text "gramps_id" "$.gramps_id", text "given_name" "$.primary_name.first_name",
     text "primary_surname" "$.primary_name.surname_list[0].surname", integer "gender" "$.gender",
     integer "birth_ref_index" "$.birth_ref_index", integer "death_ref_index" "$.death_ref_index",
     boolean "is_private" "$.private"]
    [btree "name_search_idx" "lower(primary_surname), lower(given_name)",
     trigram "surname_trgm" "primary_surname gin_trgm_ops"]

/-- The families. -/
def family : Table :=
  entity "family"
    [text "gramps_id" "$.gramps_id", text "father_handle" "$.father_handle",
     text "mother_handle" "$.mother_handle", integer "rel_type" "$.type.value",
     boolean "is_private" "$.private"]
    [btree "parents_idx" "father_handle, mother_handle"]

/-- The events. -/
def event : Table :=
  entity "event"
    [text "gramps_id" "$.gramps_id", integer "event_type" "$.type.value",
     text "description" "$.description", text "place_handle" "$.place",
     integer "date_sortval" "$.date.sortval", boolean "is_private" "$.private"]
    [btree "type_date_idx" "event_type, date_sortval"]

/-- The places. -/
def place : Table :=
  entity "place"
    [text "gramps_id" "$.gramps_id", text "title" "$.title", text "place_name" "$.name.value",
     integer "place_type" "$.place_type.value", text "enclosed_by" "$.placeref_list[0].ref",
     boolean "is_private" "$.private"]
    [btree "hierarchy_idx" "enclosed_by, place_name", trigram "name_trgm" "place_name gin_trgm_ops"]

/-- The sources. -/
def source : Table :=
  entity "source"
    [text "gramps_id" "$.gramps_id", text "title" "$.title", text "author" "$.author",
     text "pubinfo" "$.pubinfo", text "abbrev" "$.abbrev", boolean "is_private" "$.private"]
    []

/-- The citations of sources. -/
def citation : Table :=
  entity "citation"
    [text "gramps_id" "$.gramps_id", text "page" "$.page", integer "confidence" "$.confidence",
     text "source_handle" "$.source_handle", boolean "is_private" "$.private"]
    []

/-- The repositories that hold sources. -/
def repository : Table :=
  entity "repository"
    [text "gramps_id" "$.gramps_id", text "repo_name" "$.name", boolean "is_private" "$.private"]
    []

/-- The media objects. -/
def media : Table :=
  entity "media"
    [text "gramps_id" "$.gramps_id", text "path" "$.path", text "mime" "$.mime",
     text "media_desc" "$.desc", boolean "is_private" "$.private"]
    []

/-- The notes. -/
def note : Table :=
  entity "note"
    [text "gramps_id" "$.gramps_id", text "note_text" "$.text.string",
     integer "note_type" "$.type.value", boolean "is_private" "$.private"]
    [trigram "text_trgm" "note_text gin_trgm_ops"]

/-- The tags. -/
def tag : Table :=
  entity "tag"
    [text "tag_name" "$.name", text "color" "$.color", integer "priority" "$.priority"]
    []

/-- The settings of the schema. -/
def settings : Table :=
  { name := settingsTable, common := false, layout := .record "setting" [], indexes := [] }

/-- Which entity refers to which. -/
def reference : Table where
  name := "reference"
  common := false
  layout := .plain
    [("obj_handle", "TEXT NOT NULL"), ("obj_class", "TEXT NOT NULL"),
     ("ref_handle", "TEXT NOT NULL"), ("ref_class", "TEXT NOT NULL")]
    ["obj_handle", "ref_handle"]
  indexes := [{ btree "ref_handle_idx" "ref_handle" with needsDocument := false }]

/-- How often a given name is borne by whom. -/
def genderStatistics : Table where
  name := "gender_stats"
  common := false
  layout := .plain
    [("given_name", "TEXT NOT NULL"), ("female", "INTEGER NOT NULL DEFAULT 0"),
     ("male", "INTEGER NOT NULL DEFAULT 0"), ("unknown", "INTEGER NOT NULL DEFAULT 0")]
    ["given_name"]
  indexes := []

/-- Which surnames belong together. -/
def nameGroup : Table where
  name := "name_group"
  common := true
  layout := .plain [("name", "TEXT NOT NULL"), ("group_name", "TEXT NOT NULL")] ["name"]
  indexes := []

/-- The surnames. -/
def surname : Table where
  name := "surname"
  common := true
  layout := .plain [("surname", "TEXT NOT NULL")] ["surname"]
  indexes := []

/-- Every table, in the order in which they are created. -/
def tables : List Table :=
  [person, family, event, place, source, citation, repository, media, note, tag, settings,
   reference, genderStatistics, nameGroup, surname]

/-- The table of a name. -/
def table? (name : String) : Option Table := tables.find? (·.name = name)

end Tenancy.Schema.Inventory
