import Mathlib.Data.List.Forall2
import Tenancy.Proofs.Schema.Ledger

/-!
# A ledger that follows a script

The engine that follows a script keeps settings in its tables as `Ledger` asks for: `databaseLedger`. It
reads each statement about settings by its beginning, and what builds a schema is none of them
(`ofSql_construction`).
-/

namespace Tenancy
open Text Sql

namespace Understood
open Engine

/-- Behind its head stands the rest of a statement. -/
lemma after_append {head sql rest : String} (eq : sql = head ++ rest) : after? head sql = some rest := by
  have start : head.toList.isPrefixOf sql.toList := by
    rw [List.isPrefixOf_iff_prefix, eq, String.toList_append]
    exact List.prefix_append _ _
  rw [after?, if_pos start, eq, String.toList_append, ← String.length_toList, List.drop_left,
    String.ofList_toList]

/-- A statement that differs from a head does not have it. -/
lemma after_eq_none {head front sql : String} {rest : List Char}
    (eq : sql.toList = front.toList ++ rest) (apart : Reading.apart head.toList front.toList) :
    after? head sql = none := by
  rw [after?, if_neg]
  rw [eq, List.isPrefixOf_iff_prefix]
  exact Reading.not_prefix_of_apart apart rest

/-- The first word of a text is a name that a blank follows. -/
lemma splitWord_append {name rest : String} (chars : name.toList.all isPrefixChar)
    (blank : rest.toList.head? = some ' ') : splitWord (name ++ rest) = (name, rest) := by
  let stays (c : Char) : Bool := !c.isWhitespace && c ≠ '('
  have check : ∀ n < 128, isPrefixChar (Char.ofNat n) → stays (Char.ofNat n) := by decide
  -- Characters of a prefix are ASCII, so it is enough to look at those below 128.
  have inside : ∀ c ∈ name.toList, stays c = true := fun c mem => by
    have char := List.all_eq_true.1 chars c mem
    exact isAscii_induction (fun c => isPrefixChar c → stays c) check
      (isAscii_of_isNameChar (isNameChar_of_isPrefixChar char)) char
  obtain ⟨more, eq⟩ := List.head?_eq_some_iff.1 blank
  have stops : stays ' ' = false := by decide
  have first : (name ++ rest).toList.takeWhile stays = name.toList := by
    rw [String.toList_append, List.takeWhile_append_of_pos inside, eq,
      List.takeWhile_cons_of_neg (by simp [stops]), List.append_nil]
  have second : (name ++ rest).toList.dropWhile stays = rest.toList := by
    rw [String.toList_append, List.dropWhile_append_of_pos inside, eq,
      List.dropWhile_cons_of_neg (by simp [stops])]
  change (String.ofList ((name ++ rest).toList.takeWhile stays),
    String.ofList ((name ++ rest).toList.dropWhile stays)) = (name, rest)
  rw [first, second, String.ofList_toList, String.ofList_toList]

/-- The name in front of a text that starts with a blank is found. -/
lemma wordBefore_append {next name rest : String} (chars : name.toList.all isPrefixChar)
    (blank : rest.toList.head? = some ' ') (start : next.toList <+: rest.toList) :
    wordBefore? next (name ++ rest) = some name := by
  rw [wordBefore?, splitWord_append chars blank]
  exact if_pos (List.isPrefixOf_iff_prefix.2 start)

/-- How the statements start that are read in each of the ways. -/
def heads : List String :=
  ["SAVEPOINT ", "ROLLBACK TO SAVEPOINT ", "RELEASE SAVEPOINT ",
    "SELECT EXISTS (SELECT 1 FROM pg_catalog.pg_tables", "CREATE TABLE IF NOT EXISTS ",
    "SELECT json_data, blob_data FROM ", "SELECT NULL::jsonb, blob_data FROM ", "INSERT INTO "]

/-- A statement that starts in none of several ways is not read so. -/
lemma eq_none_of_heads {i : Nat} {sql : String} (h : ∀ head ∈ heads.take i, after? head sql = none) :
    ∀ reading ∈ readings.take i, reading sql = none := by
  -- Heads and readings are two lists in the same order, and each reading starts with its head.
  have pairs : List.Forall₂ (fun head reading => after? head sql = none → reading sql = none)
      (heads.take i) (readings.take i) :=
    List.forall₂_take i (by simp +contextual [heads, readings])
  generalize heads.take i = hs, readings.take i = rs at h pairs
  induction pairs with
  | nil => simp
  | cons pair _ ih =>
    obtain ⟨first, rest⟩ := List.forall_mem_cons.1 h
    exact List.forall_mem_cons.2 ⟨pair first, ih rest⟩

/-- A statement is read in the first way in which it can be read. -/
lemma ofSql_eq_of_reading (i : Nat) {front sql : String} {rest : List Char} {u : Understood}
    (eq : sql.toList = front.toList ++ rest)
    (apart : ∀ w ∈ ["BEGIN", "COMMIT", "ROLLBACK"] ++ heads.take i, Reading.apart w.toList front.toList)
    (reads : (readings.drop i).head?.bind (fun reading => reading sql) = some u) : ofSql sql = u := by
  have text : sql ∉ ["BEGIN", "COMMIT", "ROLLBACK"] := fun mem => by
    have start := Reading.not_prefix_of_apart (apart sql (List.mem_append_left _ mem)) rest
    rw [← eq] at start
    exact start (List.prefix_refl _)
  have before : (readings.take i).findSome? (fun reading => reading sql) = none :=
    List.findSome?_eq_none_iff.2 <| eq_none_of_heads fun head mem =>
      after_eq_none eq (apart head (List.mem_append_right _ mem))
  obtain ⟨reading, first, reads⟩ := Option.bind_eq_some_iff.1 reads
  obtain ⟨more, here⟩ := List.head?_eq_some_iff.1 first
  rw [ofSql_eq text, ← List.take_append_drop i readings, List.findSome?_append, before, here,
    List.findSome?_cons, reads]
  rfl

end Understood

namespace Schema
open Engine Connection

/-- The question for a table is understood as one. -/
lemma reads_existsQuery : Understood.ofSql existsQuery = .tableExists := by decide +kernel

/-- The statement that takes a lock is about no data. -/
lemma reads_lock : Understood.ofSql Sent.lock = .other := by decide +kernel

section Readings
variable {table : String} (name : SettingsName table)
include name

/-- The query for a setting is understood as one. -/
lemma ofSql_settingQuery (documents : Bool) :
    Understood.ofSql (Sent.settingQuery documents table) = .readSetting table documents := by
  have word : Understood.wordBefore? " WHERE setting = " (table ++ " WHERE setting = $1") = some table :=
    Understood.wordBefore_append name.chars rfl (by decide)
  unfold Sent.settingQuery
  rw [String.append_assoc]
  cases documents with
  | true =>
    refine Understood.ofSql_eq_of_reading 5 String.toList_append (by decide) ?_
    simp [Understood.readings, Understood.after_append rfl, word]
  | false =>
    refine Understood.ofSql_eq_of_reading 6 String.toList_append (by decide) ?_
    simp [Understood.readings, Understood.after_append rfl, word]

/-- So is the statement that writes one. -/
lemma ofSql_settingStatement (documents : Bool) :
    Understood.ofSql (Sent.settingStatement documents table) = .writeSetting table := by
  unfold Sent.settingStatement
  rw [String.append_assoc]
  refine Understood.ofSql_eq_of_reading 7 String.toList_append (by decide) ?_
  rw [Understood.readings]
  simp only [List.drop_succ_cons, List.drop_zero, List.head?_cons, Option.bind_some]
  rw [Understood.after_append rfl, Option.bind_some, Understood.wordBefore_append name.chars ?_ ?_]
  · rfl
  all_goals
    cases documents with
    | _ =>
      simp only [if_true, Bool.false_eq_true, if_false, String.toList_append]
      repeat rw [String.toList_ofList]
      decide

/-- The creation of a table is read as such, whatever its columns. -/
lemma ofSql_create {columns : String} (blank : columns.toList.head? = some ' ') :
    Understood.ofSql ("CREATE TABLE IF NOT EXISTS " ++ table ++ columns) = .createTable table := by
  rw [String.append_assoc]
  refine Understood.ofSql_eq_of_reading 4 String.toList_append (by decide) ?_
  rw [Understood.readings]
  simp only [List.drop_succ_cons, List.drop_zero, List.head?_cons, Option.bind_some]
  rw [Understood.after_append rfl, Option.map_some, Understood.splitWord_append name.chars blank]

end Readings

/-- What builds a schema is sent as a statement that creates a table at most, as far as it is read. -/
lemma ofSql_construction {c : Connection} (legible : Legible c) {s : Site} {sql : String}
    (h : s.Construction sql) :
    Understood.ofSql (c.adapt sql) = .other ∨
      ∃ table, Understood.ofSql (c.adapt sql) = .createTable table := by
  obtain ⟨v, mem, start⟩ := h.startsWith
  have verb : ∀ v ∈ buildingVerbs, v ∈ verbs := by decide
  obtain ⟨head, rest, sent, origin⟩ := adapt_head legible.legacy (verb v mem) start
  have apart : ∀ w ∈ ["BEGIN", "COMMIT", "ROLLBACK"] ++ Understood.heads,
      w ≠ "CREATE TABLE IF NOT EXISTS " → Reading.apart w.toList head := by
    -- The lease may have put its prefix in front, which starts with no capital letter as heads do.
    rcases origin with rfl | ⟨p, rfl⟩
    · have check : ∀ v ∈ buildingVerbs, ∀ w ∈ ["BEGIN", "COMMIT", "ROLLBACK"] ++ Understood.heads,
          w ≠ "CREATE TABLE IF NOT EXISTS " → Reading.apart w.toList v.toList := by
        decide
      exact check v mem
    · have capital : ∀ w ∈ ["BEGIN", "COMMIT", "ROLLBACK"] ++ Understood.heads,
          w.toList.head?.any (!isPrefixChar ·) := by decide
      exact fun w mem _ => apart_tablePrefix p (capital w mem)
  have none (w : String) (mem : w ∈ Understood.heads) (other : w ≠ "CREATE TABLE IF NOT EXISTS ") :
      Understood.after? w (c.adapt sql) = none := by
    rw [Understood.after?, if_neg]
    rw [sent, List.isPrefixOf_iff_prefix]
    exact Reading.not_prefix_of_apart (apart w (List.mem_append_right _ mem) other) rest
  have text : c.adapt sql ∉ ["BEGIN", "COMMIT", "ROLLBACK"] := fun mem => by
    have check : ∀ w ∈ ["BEGIN", "COMMIT", "ROLLBACK"], w ≠ "CREATE TABLE IF NOT EXISTS " := by decide
    have start := Reading.not_prefix_of_apart
      (apart _ (List.mem_append_left _ mem) (check _ mem)) rest
    rw [← sent] at start
    exact start (List.prefix_refl _)
  refine Understood.ofSql_of_readings (P := fun u => u = .other ∨ ∃ table, u = .createTable table)
    text (.inl rfl) fun reading mem u eq => .inr ?_
  simp only [Understood.readings, List.mem_cons, List.not_mem_nil, or_false] at mem
  -- Of the eight ways only the fifth, the creation of a table, has a head that fits.
  rcases mem with rfl | rfl | rfl | rfl | rfl | rfl | rfl | rfl
  case inr.inr.inr.inr.inl =>
    obtain ⟨after, -, rfl⟩ := Option.map_eq_some_iff.1 eq
    exact ⟨_, rfl⟩
  all_goals
    dsimp only at eq
    rw [none _ (by decide) (by decide)] at eq
    cases eq

/-! ## The ledger -/

/-- The parameters of a statement are numbered after its names. -/
lemma parameterCount_append {table rest : String} (front : String) (name : SettingsName table)
    (plain : '$' ∉ front.toList) :
    parameterCount (front ++ (table ++ rest)) = parameterCount rest := by
  have sign : '$' ∉ table.toList := fun mem =>
    absurd (List.all_eq_true.1 name.chars _ mem) (by decide)
  rw [parameterCount, String.toList_append, String.toList_append,
    highestParameter_append (isUntagged_of_not_mem plain),
    highestParameter_append (isUntagged_of_not_mem sign)]
  rfl

end Schema

namespace Engine
open Schema Connection

variable {fate : Nat → String → Fate}

/-- What a stored setting is as an entry. -/
def storedEntry (x : StoredSetting) : SettingEntry := ⟨x.document.map Wire.document, x.bytes⟩

/-- What a table of settings has for a key. -/
def databaseEntry (contents : Bool × Option (List (String × StoredSetting))) (key : String) :
    Option SettingEntry :=
  ((contents.2.getD []).lookup key).map storedEntry

/-- The entry for a key is what the database has stored for it. -/
lemma databaseEntry_eq (d : Database) (table key : String) :
    databaseEntry (databaseContents d table) key = (d.setting? table key).map storedEntry := by
  rw [databaseEntry, databaseContents, Database.setting?]
  cases d.settings.lookup table with
  | none => rfl
  | some rows => rfl

/-- What was written is what is there, and nothing else has changed. -/
lemma databaseEntry_setSetting (d : Database) (table key other : String) (value : StoredSetting) :
    databaseEntry (databaseContents (d.setSetting table key value) table) other =
      if other = key then some (storedEntry value)
      else databaseEntry (databaseContents d table) other := by
  have rows : (d.setSetting table key value).settings.lookup table =
      some (Database.assign key value ((d.settings.lookup table).getD [])) :=
    Database.lookup_assign_self ..
  rw [databaseEntry, databaseContents, rows]
  dsimp only [Option.getD_some]
  split
  · next eq =>
    subst eq
    rw [Database.lookup_assign_self]
    rfl
  · next differs =>
    rw [Database.lookup_assign_of_ne differs]
    rfl

/-- What a setting becomes that is written; without documents the document stays. -/
def writtenSetting (documents : Bool) (value : Json) (old : Option StoredSetting) : StoredSetting :=
  { document := if documents then some value.text else old.bind (·.document)
    bytes := some (Text.utf8Bytes value.text.toList) }

/-- A setting is written into the database. -/
lemma obey_writeSetting (documents : Bool) (table key : String) (value : Json) (d : Database) :
    (ScriptedServer.obey {} d (settingParameters documents key value) (.writeSetting table)).2.2 =
      d.setSetting table key (writtenSetting documents value (d.setting? table key)) := by
  cases documents with
  | true => rfl
  | false => rfl

/-- A document that travels in its binary form arrives if its text can be read. -/
lemma ofBytes_text (text : String) :
    Cell.ofBytes "jsonb" (Wire.document text) = (Json.parse? text).elim .null .json := by
  change Cell.ofBytes "jsonb" (1 :: Text.utf8Bytes text.toList) = _
  simp [Cell.ofBytes, Cell.ofVersion, Cell.ofJsonText, Text.utf8_utf8Bytes]

/-- A document that can be parsed again is read as it was sent. -/
lemma ofBytes_document {value : Json} (faithful : Json.parse? value.text = some value) :
    Cell.ofBytes "jsonb" (Wire.document value.text) = .json value := by
  rw [ofBytes_text, faithful]
  rfl

/-- What is stored is what was to be written. -/
lemma written_writtenSetting (documents : Bool) {value : Json}
    (faithful : Json.parse? value.text = some value)
    (old : Option StoredSetting) :
    Written documents value (old.map storedEntry)
      (some (storedEntry (writtenSetting documents value old))) := by
  refine ⟨_, rfl, rfl, ?_⟩
  cases documents with
  | true => exact ⟨_, rfl, ofBytes_document faithful⟩
  | false =>
    cases old with
    | none => rfl
    | some x => rfl

/-- The row of a query for a setting is that of its entry. -/
lemma obey_readSetting (documents : Bool) (table key : String) (d : Database) :
    (ScriptedServer.obey {} d [.text key] (.readSetting table documents)).1.rows =
      (databaseEntry (databaseContents d table) key).toList.map (SettingEntry.row documents) := by
  rw [databaseEntry_eq]
  change ((d.setting? table key).map fun x : StoredSetting =>
    [if documents then x.document.map Wire.document else none, x.bytes]).toList = _
  cases d.setting? table key with
  | none => rfl
  | some x => rfl

/-- Whether there is a table is part of its contents. -/
lemma present_iff {d : Database} {table : String} :
    (databaseContents d table).1 = true ↔ table ∈ d.tables :=
  decide_eq_true_iff

/-- A statement has the effect with which a scripted server obeys it. -/
lemma effect_eq (sql : String) (ps : List Parameter) (d : Database) :
    (ofDatabase fate).effect sql ps d =
      ((ScriptedServer.obey {} d ps (.ofSql sql)).1, (ScriptedServer.obey {} d ps (.ofSql sql)).2.2) :=
  rfl

/-- Nothing takes a table away. -/
lemma present_effect (sql : String) (ps : List Parameter) {d : Database} {table : String}
    (present : (databaseContents d table).1 = true) :
    (databaseContents ((ofDatabase fate).effect sql ps d).2 table).1 = true := by
  rw [effect_eq, present_iff]
  rw [present_iff] at present
  cases Understood.ofSql sql with
  | createTable name => exact Database.mem_addTable_of_mem present name
  | writeSetting name =>
    unfold ScriptedServer.obey
    cases ScriptedServer.described? ps with
    | none => exact present
    | some entry => exact present
  | _ => exact present

/-- A statement that builds the schema keeps all settings, and the table if there is one. -/
lemma effect_construction {c : Connection} (legible : Legible c) {s : Site} {sql : String}
    (h : s.Construction sql) (d : Database) (table : String) :
    let d' := ((ofDatabase fate).effect (c.adapt sql) [] d).2
    ((databaseContents d table).1 = true → (databaseContents d' table).1 = true) ∧
      ∀ key, databaseEntry (databaseContents d' table) key =
        databaseEntry (databaseContents d table) key := by
  refine ⟨present_effect _ _, fun key => ?_⟩
  rw [effect_eq]
  rcases ofSql_construction legible h with eq | ⟨name, eq⟩
  · rw [eq]
    rfl
  · rw [eq]
    change databaseEntry (databaseContents (d.addTable name) table) key = _
    rw [databaseEntry, databaseEntry, databaseContents, databaseContents, Database.settings_addTable]

/-- The question for a table is answered as the database has it. -/
lemma effect_existsQuery (table : String) (d : Database) :
    let o := (ofDatabase fate).effect existsQuery [.text table] d
    o.2 = d ∧ truth? o.1 = .ok (databaseContents d table).1 := by
  rw [effect_eq, reads_existsQuery]
  refine ⟨rfl, ?_⟩
  change truth? ⟨[⟨"exists", "bool"⟩], [[some [if decide (table ∈ d.tables) then 1 else 0]]], 0⟩ =
    .ok (decide (table ∈ d.tables))
  cases decide (table ∈ d.tables) with
  | true => rfl
  | false => rfl

/-- To take a lock changes no data. -/
lemma effect_lock (key : String) (d : Database) :
    ((ofDatabase fate).effect Sent.lock [.text key] d).2 = d := by
  rw [effect_eq, reads_lock]
  rfl

/-- The query for a setting gives what is stored, and changes nothing. -/
lemma effect_settingQuery (documents : Bool) {table : String} (name : SettingsName table)
    (key : String) (d : Database) :
    let (reply, d') := (ofDatabase fate).effect (Sent.settingQuery documents table) [.text key] d
    d' = d ∧ reply.columns.map (·.type) = ["jsonb", "bytea"] ∧
      reply.rows = (databaseEntry (databaseContents d table) key).toList.map
        (SettingEntry.row documents) := by
  rw [effect_eq, ofSql_settingQuery name]
  exact ⟨rfl, rfl, obey_readSetting documents table key d⟩

/-- The statement that writes a setting changes the entry of its key, and no other. -/
lemma effect_settingStatement (documents : Bool) {table : String} (name : SettingsName table)
    (key : String) {value : Json} (faithful : Json.parse? value.text = some value) (d : Database)
    (present : (databaseContents d table).1 = true) :
    let d' := ((ofDatabase fate).effect (Sent.settingStatement documents table)
      (settingParameters documents key value) d).2
    (databaseContents d' table).1 = true ∧
      Written documents value (databaseEntry (databaseContents d table) key)
        (databaseEntry (databaseContents d' table) key) ∧
      ∀ other ≠ key, databaseEntry (databaseContents d' table) other =
        databaseEntry (databaseContents d table) other := by
  rw [effect_eq, ofSql_settingStatement name]
  dsimp only
  rw [obey_writeSetting]
  refine ⟨present, ?_, fun other differs => ?_⟩
  · rw [databaseEntry_setSetting, if_pos rfl, databaseEntry_eq]
    exact written_writtenSetting documents faithful _
  · rw [databaseEntry_setSetting, if_neg differs]

/-- A table that is created is there. -/
lemma present_create {table columns : String} (name : SettingsName table)
    (blank : columns.toList.head? = some ' ') (d : Database) :
    (databaseContents
      ((ofDatabase fate).effect ("CREATE TABLE IF NOT EXISTS " ++ table ++ columns) [] d).2
      table).1 = true := by
  rw [effect_eq, ofSql_create name blank, present_iff]
  exact Database.mem_addTable_self d table

/-- Once it was created, the table of settings is there. -/
lemma present_creation (documents : Bool) {table : String} (name : SettingsName table)
    (d : Database) :
    (databaseContents ((ofDatabase fate).effect (Sent.creation documents table) [] d).2 table).1 =
      true := by
  refine present_create name ?_ d
  cases documents with
  | _ =>
    simp only [if_true, Bool.false_eq_true, if_false, String.toList_append]
    repeat rw [String.toList_ofList]
    decide

/-- A question with one parameter, which is a text, has the parameters that it takes. -/
lemma misfit_text {sql : String} (count : parameterCount sql = 1)
    (other : ∀ table, Understood.ofSql sql ≠ .writeSetting table) (text : String) :
    (ofDatabase fate).misfit sql [.text text] = none := by
  have kinds : ScriptedServer.kinds sql 1 = [.text] := by
    unfold ScriptedServer.kinds
    split
    · next table eq _ => exact absurd eq (other table)
    · next table eq _ => exact absurd eq (other table)
    · rfl
  change ScriptedServer.misfit? sql [.text text] = none
  simp [ScriptedServer.misfit?, count, kinds, ScriptedServer.Kind.admits]

/-- No question misfits a database. -/
lemma misfit_questions {table : String} (name : SettingsName table) (key : String) :
    (ofDatabase fate).misfit existsQuery [.text table] = none ∧
      (ofDatabase fate).misfit Sent.lock [.text key] = none ∧
      ∀ documents, (ofDatabase fate).misfit (Sent.settingQuery documents table) [.text key] = none := by
  have asks : parameterCount existsQuery = 1 := by decide +kernel
  have locks : parameterCount Sent.lock = 1 := by decide +kernel
  refine ⟨misfit_text asks (by simp [reads_existsQuery]) table,
    misfit_text locks (by simp [reads_lock]) key,
    fun documents => misfit_text ?_ (by simp [ofSql_settingQuery name]) key⟩
  have numbered : parameterCount " WHERE setting = $1" = 1 := by decide +kernel
  rw [Sent.settingQuery, String.append_assoc, parameterCount_append _ name, numbered]
  cases documents with
  | true => decide
  | false => decide

/-- The ledger of the engine that follows a script. -/
def databaseLedger (fate : Nat → String → Fate) : Ledger (ofDatabase fate) where
  toTables := databaseTables fate
  present contents := contents.1
  stored := databaseEntry
  asks {table} d _ := effect_existsQuery table d
  locks key d := effect_lock key d
  reads documents _ key d name _ := effect_settingQuery documents name key d
  writes documents _ key _ d name recorded present :=
    effect_settingStatement documents name key recorded.parse d present
  creates documents _ d name := present_creation documents name d
  builds _ _ _ d legible construction := effect_construction legible construction d _
  fits := misfit_questions
  fitsPlaces := by
    show ∀ sql ∈ savepointStatements, ScriptedServer.misfit? sql [] = none
    decide +kernel

/-- Whether there is a table is in its contents. -/
lemma databaseLedger_present (d : (ofDatabase fate).Data) (table : String) :
    (databaseLedger fate).present ((databaseLedger fate).contents d table) =
      (databaseContents d table).1 := rfl

end Engine
end Tenancy
