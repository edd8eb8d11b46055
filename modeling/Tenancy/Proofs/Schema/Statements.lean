import Tenancy.Proofs.Schema.Composition
import Tenancy.Proofs.Schema.Definitions

/-!
# What the statements of the upkeep mention

Every definition of a table in the inventory is made for the tenant whose prefix its objects carry, and
so is every other statement that the upkeep of the tenant's schema sends: it mentions what carries the
prefix, and neutral names. `Site.Statement.proper` says so of them all.
-/

namespace Tenancy.Schema
open Text Sql Connection

/-! ## The definitions of the inventory -/

section Inventory
variable {p : TablePrefix} {t : Table} {b : Blueprint}

/-- What is checked of the columns of a table. -/
def Layout.Sound : Layout → Prop
  | .record key _ => Mute key.toList
  | .plain columns primaryKey =>
    (∀ c ∈ columns, Mute c.1.toList ∧ Mute c.2.toList) ∧ ∀ k ∈ primaryKey, Mute k.toList

instance : DecidablePred Layout.Sound
  | .record key _ => inferInstanceAs (Decidable (Mute key.toList))
  | .plain _ _ => inferInstanceAs (Decidable (_ ∧ _))

/-- What is checked of the description of a table. -/
structure Table.Sound (t : Table) : Prop where
  name : Checked t.name.toList
  derived : ∀ c ∈ t.derived, Mute c.name.toList
  indexes : ∀ i ∈ t.indexes, Mute i.elements.toList
  layout : t.layout.Sound
  /-- Tables that all tenants have in common have no objects. -/
  common : t.common = true → t.derived = [] ∧ t.indexes = []

/-- The tables of the inventory are sound. -/
lemma Inventory.sound : ∀ t ∈ Inventory.tables, t.Sound := by
  have check : ∀ t ∈ Inventory.tables, Checked t.name.toList ∧
      (∀ c ∈ t.derived, Mute c.name.toList) ∧ (∀ i ∈ t.indexes, Mute i.elements.toList) ∧
      t.layout.Sound ∧ (t.common = true → t.derived = [] ∧ t.indexes = []) := by
    decide +kernel
  intro t mem
  obtain ⟨name, derived, indexes, layout, common⟩ := check t mem
  exact ⟨name, derived, indexes, layout, common⟩

/-- The names of the columns that all records have, the types of columns, the methods of indexes, and what
the index on the whole document covers. -/
def commonTexts : List String :=
  [documentColumn, bytesColumn, changeColumn, "TEXT NOT NULL", "JSONB", "BYTEA",
    "TIMESTAMPTZ NOT NULL DEFAULT now()", "TEXT", "BIGINT", "BOOLEAN", "btree", "gin",
    "json_data jsonb_path_ops"]

/-- The texts that all statements share name no table and are left alone by rules. -/
lemma mute_commonTexts : ∀ s ∈ commonTexts, Mute s.toList := by
  decide +kernel

/-- So do the names of types. -/
lemma mute_type (type : ColumnType) : Mute type.name.toList := by
  cases type with
  | text => exact mute_commonTexts _ (by simp [ColumnType.name, commonTexts])
  | integer => exact mute_commonTexts _ (by simp [ColumnType.name, commonTexts])
  | boolean => exact mute_commonTexts _ (by simp [ColumnType.name, commonTexts])

/-- So do the kinds of indices. -/
lemma mute_method (method : IndexMethod) : Mute method.name.toList := by
  cases method with
  | btree => exact mute_commonTexts _ (by simp [IndexMethod.name, commonTexts])
  | gin => exact mute_commonTexts _ (by simp [IndexMethod.name, commonTexts])

/-- Code that names no table passes the check of a piece. -/
lemma Mute.checked {cs : List Char} (h : Mute cs) : Checked cs :=
  ⟨h.2.1, fun w mem => ⟨(h.2.2 w mem).1, .inr (h.2.2 w mem).2⟩⟩

/-- Such code is a part of statements on any tenant's tables. -/
lemma Mute.piece {s : String} (h : Mute s.toList) : Piece p s := .of_checked h.checked

/-- What follows the name of a table in the names of its objects. -/
def Table.objectSuffixes (t : Table) : List String :=
  ["sync", "json_gin"] ++ t.derived.map (fun c => s!"{c.name}_idx") ++ t.indexes.map (·.suffix)

/-- The objects of a table are named by their suffixes. -/
lemma Table.objectNames_eq : t.objectNames b = t.objectSuffixes.map (b.objectName t) := by
  simp only [objectNames, objectSuffixes, List.map_append, List.map_map, List.map_cons,
    List.map_nil, Function.comp_def]

/-- The objects of a table that tenants own carry the prefix. -/
lemma exists_objectName (memt : t ∈ Inventory.tables) (own : t.common = false)
    (hp : b.tablePrefix = some p) {suffix : String} (mem : suffix ∈ t.objectSuffixes) :
    ∃ a ∈ Inventory.ownNames, b.objectName t suffix = p.apply a := by
  refine ⟨Blueprint.baseName t suffix, ?_, ?_⟩
  · refine Inventory.mem_ownNames_of_own memt own (List.mem_cons_of_mem _ ?_)
    rw [Table.objectNames_eq]
    exact List.mem_map.2 ⟨suffix, mem, rfl⟩
  · rw [Blueprint.objectName_eq, hp]
    dsimp only
    rw [own, if_neg Bool.false_ne_true]

/-- The name of an object is a part of statements on the tables of its tenant. -/
lemma piece_objectName (memt : t ∈ Inventory.tables) (own : t.common = false)
    (hp : b.tablePrefix = some p) {suffix : String} (mem : suffix ∈ t.objectSuffixes) :
    Piece p (b.objectName t suffix) := by
  obtain ⟨a, mema, eq⟩ := exists_objectName memt own hp mem
  rw [eq]
  exact .apply mema

variable (memt : t ∈ Inventory.tables)
include memt

/-- The columns and their types name no table. -/
lemma mute_columns : ∀ c ∈ t.columns b, Mute c.1.toList ∧ Mute c.2.toList := by
  have layout := (Inventory.sound t memt).layout
  have derived := (Inventory.sound t memt).derived
  unfold Table.columns
  unfold Table.derived at derived
  intro c mem
  rcases eq : t.layout with ⟨key, columns⟩ | ⟨columns, primaryKey⟩
  · rw [eq] at layout derived mem
    have documents {cs : List (String × String)} (mem : c ∈ if b.documents then cs else []) :
        c ∈ cs := by
      split at mem
      · exact mem
      · cases mem
    rcases List.mem_cons.1 mem with rfl | mem
    · exact ⟨layout, mute_commonTexts "TEXT NOT NULL" (by decide)⟩
    rcases List.mem_append.1 mem with mem | mem
    · rw [List.mem_singleton.1 (documents mem)]
      exact ⟨mute_commonTexts _ (by decide), mute_commonTexts _ (by decide)⟩
    rcases List.mem_cons.1 mem with rfl | mem
    · exact ⟨mute_commonTexts _ (by decide), mute_commonTexts _ (by decide)⟩
    rcases List.mem_cons.1 mem with rfl | mem
    · exact ⟨mute_commonTexts _ (by decide), mute_commonTexts _ (by decide)⟩
    · obtain ⟨d, memd, rfl⟩ := List.mem_map.1 (documents mem)
      exact ⟨derived d memd, mute_type d.type⟩
  · rw [eq] at layout mem
    exact layout.1 c mem

/-- Nor do the columns of a primary key. -/
lemma mute_primaryKey : ∀ k ∈ t.primaryKey, Mute k.toList := by
  have layout := (Inventory.sound t memt).layout
  unfold Table.primaryKey
  intro k mem
  rcases eq : t.layout with ⟨key, columns⟩ | ⟨columns, primaryKey⟩
  · rw [eq] at layout mem
    rw [List.mem_singleton.1 mem]
    exact layout
  · rw [eq] at layout mem
    exact layout.2 k mem

/-- The statement that creates a table is made of such parts. -/
lemma made_creation : (t.creation b).Made p := by
  rw [t.creation_eq]
  refine ⟨.of_checked (Inventory.sound t memt).name, fun c mem => ?_, fun k mem => ?_⟩
  · exact ⟨(mute_columns memt c mem).1.piece, (mute_columns memt c mem).2.piece⟩
  · exact (mute_primaryKey memt k mem).piece

/-- So are those that add its columns. -/
lemma made_missingColumns : ∀ d ∈ t.missingColumns b, d.Made p := by
  rw [t.missingColumns_eq]
  intro d mem
  obtain ⟨c, memc, rfl⟩ := List.mem_map.1 mem
  have mute := mute_columns memt c ((t.mem_columns b c).2 (.inr memc))
  exact ⟨.of_checked (Inventory.sound t memt).name, mute.1.piece, mute.2.piece⟩

/-- A table with derived columns belongs to a tenant. -/
lemma not_common_of_derives (h : b.derives t) : t.common = false := by
  cases common : t.common with
  | false => rfl
  | true =>
    have none := (Inventory.sound t memt).common common
    simp [Blueprint.derives, none.1] at h

/-- The parts of the definitions of indexes. -/
lemma parts_of_mem_builtIndexes : ∀ d ∈ t.builtIndexes b, t.common = false ∧
    (∃ suffix ∈ t.objectSuffixes, d.1 = b.objectName t suffix) ∧ Mute d.2.elements.toList := by
  have sound := Inventory.sound t memt
  intro d mem
  rcases List.mem_append.1 mem with mem | mem
  · split at mem
    · next derives =>
      refine ⟨not_common_of_derives memt derives, ?_⟩
      rcases List.mem_append.1 mem with mem | mem
      · obtain ⟨c, memc, rfl⟩ := List.mem_map.1 mem
        refine ⟨⟨_, ?_, rfl⟩, sound.derived c memc⟩
        simp only [Table.objectSuffixes, List.mem_append, List.mem_map]
        exact .inl (.inr ⟨c, memc, rfl⟩)
      · rw [List.mem_singleton.1 mem]
        have elements : Mute "json_data jsonb_path_ops".toList :=
          mute_commonTexts _ (by simp [commonTexts])
        exact ⟨⟨"json_gin", by simp [Table.objectSuffixes], rfl⟩, elements⟩
    · cases mem
  · obtain ⟨i, memi, rfl⟩ := List.mem_map.1 mem
    have memi := (List.mem_filter.1 memi).1
    have own : t.common = false := by
      cases common : t.common with
      | false => rfl
      | true =>
        rw [(sound.common common).2] at memi
        cases memi
    refine ⟨own, ⟨i.suffix, ?_, rfl⟩, sound.indexes i memi⟩
    simp only [Table.objectSuffixes, List.mem_append, List.mem_map]
    exact .inr ⟨i, memi, rfl⟩

variable (hp : b.tablePrefix = some p)
include hp

/-- The function that fills them is made of such parts. -/
lemma made_syncFunction {function : Definition} (h : t.syncFunction b = .ok (some function)) :
    function.Made p ∧ b.derives t := by
  have sound := Inventory.sound t memt
  unfold Table.syncFunction at h
  split at h
  · next derives =>
    rcases mapped : t.derived.mapM (fun c => do
        return (c.name, ← c.expression s!"NEW.{documentColumn}")) with e | assignments
    · rw [mapped] at h
      cases h
    · rw [mapped] at h
      cases h
      refine ⟨⟨?_, fun x mem => ?_⟩, derives⟩
      · exact exists_objectName memt (not_common_of_derives memt derives) hp
          (by simp [Table.objectSuffixes])
      · obtain ⟨c, memc, eq⟩ := exists_of_mapM mapped x mem
        rcases expression : c.expression s!"NEW.{documentColumn}" with e | value
        · rw [expression] at eq
          cases eq
        · rw [expression] at eq
          cases eq
          exact ⟨sound.derived c memc, telling_expression expression⟩
  · cases h

/-- So is its trigger. -/
lemma made_syncTrigger (derives : b.derives t) : ∀ d ∈ t.syncTrigger b, d.Made p := by
  have name : Piece p t.name := .of_checked (Inventory.sound t memt).name
  have object : Piece p (b.objectName t "sync") :=
    piece_objectName memt (not_common_of_derives memt derives) hp (by simp [Table.objectSuffixes])
  intro d mem
  simp only [Table.syncTrigger, List.mem_cons, List.not_mem_nil, or_false] at mem
  rcases mem with rfl | rfl
  · exact ⟨object, name⟩
  · exact ⟨object, name⟩

/-- So are the indices. -/
lemma made_indexDefinitions : ∀ d ∈ t.indexDefinitions b, d.Made p := by
  rw [t.indexDefinitions_eq]
  intro d mem
  obtain ⟨⟨name, x⟩, memx, rfl⟩ := List.mem_map.1 mem
  obtain ⟨own, ⟨suffix, mems, rfl⟩, elements⟩ := parts_of_mem_builtIndexes memt _ memx
  have table := t.table_of_mem_builtIndexes b _ memx
  refine ⟨piece_objectName memt own hp mems, ?_, (mute_method _).piece, elements.piece⟩
  rw [table]
  exact .of_checked (Inventory.sound t memt).name

/-- The definitions of every table of the inventory are made for the tenant whose prefix they carry. -/
theorem made_of_mem_definitions {ds : List Definition} (describes : t.definitions b = .ok ds) :
    ∀ d ∈ ds, d.Made p := by
  intro d mem
  rcases sync : t.syncFunction b with e | function
  · rw [Table.definitions, sync] at describes
    cases describes
  · rw [Table.definitions, sync] at describes
    cases describes
    rcases List.mem_append.1 mem with mem | mem
    · rcases List.mem_append.1 mem with mem | mem
      · rcases List.mem_cons.1 mem with rfl | mem
        · exact made_creation memt
        · exact made_missingColumns memt d mem
      · cases function with
        | none => cases mem
        | some function =>
          obtain ⟨made, derives⟩ := made_syncFunction memt hp sync
          rcases List.mem_cons.1 mem with rfl | mem
          · exact made
          · exact made_syncTrigger memt hp derives d mem
    · exact made_indexDefinitions memt hp d mem

end Inventory

/-! ## The other statements -/

/-- One, two or three marks are a list of parameters. -/
lemma isParameters : ∀ t ∈ ["%s", "%s, %s", "%s, %s, %s"], IsParameters t.toList := by
  have check : ∀ t ∈ ["%s", "%s, %s", "%s, %s, %s"].map String.toList, t ≠ [] ∧ t.all isAscii ∧
      t.all isBare ∧ '?' ∉ t ∧ t.getLast? ≠ some '%' ∧ t.head?.any isWord = false ∧
      (∀ w ∈ words t, w.map Char.toLower ∉ soughtWords ∧ Neutral (w.map Char.toLower)) ∧
      isPlain (numberCode 0 t).1 ∧ (numberCode 0 t).1.head?.any isWord = false ∧
      ∀ w ∈ words (numberCode 0 t).1, Neutral (lower w) := by
    decide +kernel
  intro t mem
  obtain ⟨some, ascii, bare, mark, whole, gap, words, plain, gap', neutral⟩ :=
    check t.toList (List.mem_map_of_mem mem)
  exact ⟨some, ascii, bare, mark, whole, gap, words, plain, gap', neutral⟩

/-- What stands before the parameters of statements. -/
def parameterHeads : List String :=
  ["SELECT pg_advisory_xact_lock(hashtext(",
    "SELECT json_data, blob_data FROM metadata WHERE setting = ",
    "SELECT NULL::jsonb, blob_data FROM metadata WHERE setting = ",
    "INSERT INTO metadata (setting, json_data, blob_data, change_time) VALUES (",
    "INSERT INTO metadata (setting, blob_data, change_time) VALUES ("]

/-- What stands after them. -/
def parameterTails : List String :=
  ["", "))", ", now()) ON CONFLICT (setting) DO UPDATE SET json_data = EXCLUDED.json_data, " ++
      "blob_data = EXCLUDED.blob_data, change_time = now()",
    ", now()) ON CONFLICT (setting) DO UPDATE SET blob_data = EXCLUDED.blob_data, " ++
      "change_time = now()"]

-- The characters of a literal are those that it is made of; to decode its bytes takes far longer.
/-- What stands in front of the parameters passes the check. -/
lemma parameterHeads_checked : ∀ s ∈ parameterHeads, Checked s.toList := by
  simp only [parameterHeads, List.forall_mem_cons]
  repeat rw [String.toList_ofList]
  decide +kernel

/-- What stands behind them does so there. -/
lemma parameterTails_trail : ∀ s ∈ parameterTails, Trails s.toList := by
  simp only [parameterTails, List.forall_mem_cons, String.toList_append]
  repeat rw [String.toList_ofList]
  decide +kernel

/-- Whether a statement is put together of these. -/
def IsParametric (sql : String) : Prop :=
  ∃ a ∈ parameterHeads, ∃ t ∈ ["%s", "%s, %s", "%s, %s, %s"], ∃ z ∈ parameterTails,
    sql.toList = a.toList ++ (t.toList ++ z.toList)

/-- The statement that takes a lock is one with parameters. -/
lemma isParametric_lock : IsParametric "SELECT pg_advisory_xact_lock(hashtext(%s))" :=
  ⟨"SELECT pg_advisory_xact_lock(hashtext(", by decide, "%s", by decide, "))", by decide,
    by simp⟩

/-- So is the query for a setting. -/
lemma isParametric_settingQuery (site : Site) : IsParametric site.settingQuery := by
  unfold Site.settingQuery
  cases site.documents with
  | true =>
    exact ⟨"SELECT json_data, blob_data FROM metadata WHERE setting = ", by decide, "%s",
      by decide, "", by decide, by simp [toString, documentColumn, bytesColumn, settingsTable]⟩
  | false =>
    exact ⟨"SELECT NULL::jsonb, blob_data FROM metadata WHERE setting = ", by decide, "%s",
      by decide, "", by decide, by simp [toString, bytesColumn, settingsTable]⟩

/-- So is the statement that writes one. -/
lemma isParametric_settingStatement (site : Site) : IsParametric site.settingStatement := by
  unfold Site.settingStatement
  cases site.documents with
  | true =>
    refine ⟨"INSERT INTO metadata (setting, json_data, blob_data, change_time) VALUES (", by decide,
      "%s, %s, %s", by decide, _, List.mem_cons_of_mem _ (List.mem_cons_of_mem _
        List.mem_cons_self), ?_⟩
    rw [← String.toList_append, ← String.toList_append]
    exact congrArg String.toList (by decide +kernel)
  | false =>
    refine ⟨"INSERT INTO metadata (setting, blob_data, change_time) VALUES (", by decide,
      "%s, %s", by decide, _, List.mem_cons_of_mem _ (List.mem_cons_of_mem _
        (List.mem_cons_of_mem _ List.mem_cons_self)), ?_⟩
    rw [← String.toList_append, ← String.toList_append]
    exact congrArg String.toList (by decide +kernel)

/-- The computation of derived columns anew is made of pieces. -/
lemma piece_backfill {p : TablePrefix} {sql : String} {t : Table} (mem : t ∈ Inventory.tables)
    {b : Blueprint} (describes : t.backfill b = some sql) : Piece p sql := by
  have name : Piece p t.name := .of_checked (Inventory.sound t mem).name
  have document : Piece p documentColumn := (mute_commonTexts _ (by decide)).piece
  have present : Piece p ("WHERE " ++ documentColumn ++ " IS NOT NULL") :=
    (Piece.lead (leads _ (by decide)) document).trail (trails _ (by decide))
  unfold Table.backfill at describes
  split at describes
  · cases describes
    exact (((Piece.lead (leads _ (by decide)) name).link (links _ (by decide)) document).link
      (links _ (by decide)) document).link (links _ (by decide)) present
  · cases describes

section Statement
variable {c : Connection} {p : TablePrefix} (serves : Serves c p) {sql : String} {name : List Char}
include serves

/-- A statement with parameters names no object of another prefix, also as it is sent. -/
lemma proper_parametric (h : IsParametric sql) (mentions : Mentions (c.adapt sql).toList name) :
    Proper p name := by
  obtain ⟨a, mema, t, memt, z, memz, eq⟩ := h
  exact proper_adapt_parameters serves (.of_checked (parameterHeads_checked a mema))
    (isParameters t memt) (.of_checked (parameterTails_trail z memz).1)
    (parameterTails_trail z memz).2 eq mentions

/-- What builds a tenant's schema mentions what carries the tenant's prefix, and neutral names. -/
lemma Site.Construction.proper {site : Site} (own : site.tablePrefix = some p)
    (h : site.Construction sql) (mentions : Mentions (c.adapt sql).toList name) : Proper p name := by
  have some : sql.toList ≠ [] := h.startsWith.ne_nil
  cases h with
  | extension mem =>
    have check : ∀ x ∈ optionalExtensions, Checked x.toList := by decide +kernel
    have lead : Leads "CREATE EXTENSION IF NOT EXISTS ".toList := by decide +kernel
    exact proper_adapt serves some (Piece.lead lead (.of_checked (check _ mem))) mentions
  | definition mem describes memd =>
    exact proper_definition serves (made_of_mem_definitions mem own describes _ memd) mentions
  | backfill mem describes => exact proper_adapt serves some (piece_backfill mem describes) mentions

/-- So does whatever else the upkeep of the schema sends. -/
theorem Site.Statement.proper {site : Site} (own : site.tablePrefix = some p)
    (h : site.Statement sql) (mentions : Mentions (c.adapt sql).toList name) : Proper p name := by
  cases h with
  | lock => exact proper_parametric serves isParametric_lock mentions
  | construction h => exact h.proper serves own mentions
  | settingQuery => exact proper_parametric serves (isParametric_settingQuery site) mentions
  | settingStatement => exact proper_parametric serves (isParametric_settingStatement site) mentions

end Statement
end Tenancy.Schema
