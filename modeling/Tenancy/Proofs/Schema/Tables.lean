import Tenancy.Proofs.Schema.Upkeep
import Tenancy.Proofs.Schema.Vocabulary
import Tenancy.Proofs.Server.Reading
import Tenancy.Proofs.Sql.Body

/-!
# The tables of an engine

What an engine keeps are tables, and of those that tenants own the statements of a tenant's upkeep change only
such as they mention. `Tables` says so of an engine; `databaseTables` are those of the engine that follows a
script.
-/

namespace Tenancy
open Text Sql

/-- The texts about data that the upkeep of a schema sends: its statements as the connection adapts them, and
the question whether there is a table. -/
inductive Schema.Site.Sends (s : Site) (c : Connection) : String → Prop where
  | statement {sql : String} (h : s.Statement sql) : s.Sends c (c.adapt sql)
  | question : s.Sends c Connection.existsQuery

namespace Engine
open Schema

/-- The tables of an engine. -/
structure Tables (e : Engine) where
  /-- What can be known of a table: whether it exists, and the rows it has. -/
  Contents : Type
  contents : e.Data → String → Contents
  /-- What the upkeep of a tenant's schema sends leaves every table of tenants alone that it does not
  mention. -/
  frame : ∀ {p : TablePrefix} {site : Site} {c : Connection} {sql : String}, Serves c p →
    site.tablePrefix = some p → site.Sends c sql → ∀ ps d q, ∀ n ∈ Ownership.standard.own,
      ¬ Mentions sql.toList (tableName q n).toList →
        contents (e.effect sql ps d).2 (tableName q n) = contents d (tableName q n)

end Engine

namespace Database

/-- What is found for other keys is what was there. -/
lemma lookup_assign_of_ne {α : Type} {key name : String} (h : name ≠ key) (value : α)
    (es : List (String × α)) : (assign key value es).lookup name = es.lookup name := by
  induction es with
  | nil => simp [assign, List.lookup_cons, beq_false_of_ne h]
  | cons e es ih =>
    rw [assign]
    split
    · next eq =>
      obtain ⟨key', old⟩ := e
      obtain rfl : key' = key := eq
      simp [List.lookup_cons, beq_false_of_ne h]
    · obtain ⟨key', old⟩ := e
      simp [List.lookup_cons, ih]

/-- The new value is found for its key. -/
lemma lookup_assign_self {α : Type} (key : String) (value : α) (es : List (String × α)) :
    (assign key value es).lookup key = some value := by
  induction es with
  | nil => simp [assign]
  | cons e es ih =>
    rw [assign]
    split
    · simp
    · next differs =>
      rw [List.lookup_cons, beq_false_of_ne (Ne.symm differs)]
      exact ih

/-- Other tables are there if they were. -/
lemma mem_addTable_of_ne {d : Database} {table name : String} (h : name ≠ table) :
    name ∈ (d.addTable table).tables ↔ name ∈ d.tables := by
  unfold addTable
  split
  · rfl
  · simp [h]

/-- A table that is added is there. -/
lemma mem_addTable_self (d : Database) (table : String) : table ∈ (d.addTable table).tables := by
  unfold addTable
  split
  · next mem => exact mem
  · exact List.mem_append_right _ (List.mem_singleton_self _)

/-- The tables that were there still are. -/
lemma mem_addTable_of_mem {d : Database} {table : String} (mem : table ∈ d.tables) (name : String) :
    table ∈ (d.addTable name).tables := by
  unfold addTable
  split
  · exact mem
  · exact List.mem_append_left _ mem

/-- A new table leaves the settings. -/
lemma settings_addTable (d : Database) (name : String) : (d.addTable name).settings = d.settings := by
  unfold addTable
  split
  · rfl
  · rfl

end Database

namespace Understood

/-- A statement that is read in one of several ways is read by one of them. -/
lemma exists_reading {sql : String} {u : Understood} (h : ofSql sql = u) (other : u ≠ .other)
    (data : u.isControl = false) : ∃ reading ∈ readings, reading sql = some u := by
  have text : sql ∉ ["BEGIN", "COMMIT", "ROLLBACK"] := by
    intro mem
    simp only [List.mem_cons, List.not_mem_nil, or_false] at mem
    rcases mem with rfl | rfl | rfl
    · subst h
      cases data
    · subst h
      cases data
    · subst h
      cases data
  subst h
  refine ofSql_of_readings (P := fun u => u ≠ .other → ∃ reading ∈ readings, reading sql = some u)
    text (absurd rfl) ?_ other
  exact fun reading mem u eq _ => ⟨reading, mem, eq⟩

/-- A statement is its head and what is behind it. -/
lemma eq_of_after {head sql rest : String} (h : after? head sql = some rest) :
    sql.toList = head.toList ++ rest.toList := by
  unfold after? at h
  split at h
  · next start =>
    cases h
    obtain ⟨more, eq⟩ := List.isPrefixOf_iff_prefix.1 start
    rw [← eq, String.toList_ofList, ← String.length_toList, List.drop_left]
  · cases h

/-- A text is its first word and a rest that goes on with none. -/
lemma splitWord_eq (s : String) :
    ∃ rest, s.toList = (splitWord s).1.toList ++ rest ∧ rest.head?.any isWord = false := by
  let stays (c : Char) : Bool := !c.isWhitespace && c ≠ '('
  have split : s.toList = s.toList.takeWhile stays ++ s.toList.dropWhile stays :=
    List.takeWhile_append_dropWhile.symm
  refine ⟨s.toList.dropWhile stays, ?_, ?_⟩
  · change s.toList = (String.ofList (s.toList.takeWhile stays)).toList ++ _
    rw [String.toList_ofList]
    exact split
  · cases rest : s.toList.dropWhile stays with
    | nil => rfl
    | cons c cs =>
      have stops : stays c = false := by
        have head := List.head?_dropWhile_not stays s.toList
        rw [rest] at head
        simpa using head
      have gaps : [' ', '\t', '\r', '\n', '('].all (!isWord ·) := by decide
      have among : c ∈ [' ', '\t', '\r', '\n', '('] := by
        simpa [stays, Char.isWhitespace, or_iff_not_imp_left] using stops
      simpa using List.all_eq_true.1 gaps c among

/-- The tables that a statement creates or writes to. -/
def table? : Understood → Option String
  | createTable table | writeSetting table => some table
  | _ => none

/-- A statement that is understood to be about a table has its name behind one of two heads. -/
lemma eq_of_table {sql table : String} (h : (ofSql sql).table? = some table) :
    ∃ head ∈ ["CREATE TABLE IF NOT EXISTS ", "INSERT INTO "], ∃ rest,
      sql.toList = head.toList ++ (table.toList ++ rest) ∧ rest.head?.any isWord = false := by
  have other : ofSql sql ≠ .other := by
    intro eq
    rw [eq] at h
    cases h
  have data : (ofSql sql).isControl = false := by
    cases eq : ofSql sql <;> rw [eq] at h <;> first | rfl | cases h
  obtain ⟨reading, mem, eq⟩ := exists_reading rfl other data
  simp only [readings, List.mem_cons, List.not_mem_nil, or_false] at mem
  rcases mem with rfl | rfl | rfl | rfl | rfl | rfl | rfl | rfl
  all_goals
    obtain ⟨s, found, eq⟩ := Option.map_eq_some_iff.1 eq
    rw [← eq] at h
    cases h
  · obtain ⟨rest, split, gap⟩ := splitWord_eq s
    refine ⟨"CREATE TABLE IF NOT EXISTS ", by decide, rest, ?_, gap⟩
    rw [eq_of_after found, split]
  · obtain ⟨s', after, word⟩ := Option.bind_eq_some_iff.1 found
    unfold wordBefore? at word
    rcases hs : splitWord s' with ⟨w, rest'⟩
    rw [hs] at word
    dsimp only at word
    split at word
    · cases word
      obtain ⟨rest, split, gap⟩ := splitWord_eq s'
      rw [hs] at split
      refine ⟨"INSERT INTO ", by decide, rest, ?_, gap⟩
      rw [eq_of_after after, split]
    · cases word

/-- So it mentions the table. -/
lemma mentions_of_table {sql table : String} (h : (ofSql sql).table? = some table)
    (some : table.toList ≠ []) (plain : table.toList.all isPrefixChar) :
    Mentions sql.toList table.toList := by
  obtain ⟨head, mem, rest, eq, gap⟩ := eq_of_table h
  have check : ∀ head ∈ ["CREATE TABLE IF NOT EXISTS ", "INSERT INTO "],
      head.toList.all isBare ∧ head.toList.getLast?.any isWord = false := by
    decide
  obtain ⟨bare, starts⟩ := check head mem
  have name := all_of_imp (fun _ => isNameChar_of_isPrefixChar) plain
  have bare' : (head.toList ++ table.toList).all isBare := by
    rw [List.all_append, bare]
    exact all_of_imp (fun _ => isNameChar_induction (isBare · = true) (by decide)) name
  obtain ⟨more, ls, cut⟩ := lexemes_append bare' (by simp [some]) rest
  -- The code goes on with what follows the name in the statement.
  have follows : more.head?.any isWord = false := by
    have spelled := text_lexemes (head.toList ++ table.toList ++ rest)
    rw [cut, text, List.flatMap_cons, List.append_assoc (head.toList ++ table.toList)] at spelled
    have same := List.append_cancel_left spelled
    cases more with
    | nil => rfl
    | cons c more =>
      rw [← same] at gap
      exact gap
  have memw : table.toList ∈ words (head.toList ++ (table.toList ++ more)) :=
    mem_words starts some (all_of_imp (fun _ => isWord_of_isNameChar) name) follows
  have whole : sql.toList = head.toList ++ table.toList ++ rest := by
    rw [eq, List.append_assoc]
  have among : ⟨.code, head.toList ++ table.toList ++ more⟩ ∈ lexemes sql.toList := by
    rw [whole, cut]
    exact List.mem_cons_self
  have mentions := Mentions.word among (by rwa [List.append_assoc])
  rwa [lower_of_isPrefixChar plain] at mentions

end Understood

namespace Engine
open Schema

/-- The contents of a table in the data of the server that follows a script. -/
def databaseContents (d : Database) (name : String) :
    Bool × Option (List (String × StoredSetting)) :=
  (decide (name ∈ d.tables), d.settings.lookup name)

/-- A statement about data leaves every other table alone than the one that it creates or writes to. -/
lemma databaseContents_obey (d : Database) (ps : List Parameter) {u : Understood} {name : String}
    (other : u.table? ≠ some name) :
    databaseContents (ScriptedServer.obey {} d ps u).2.2 name = databaseContents d name := by
  cases u with
  | createTable table =>
    have differs : name ≠ table := by
      rintro rfl
      exact other rfl
    have tables := Database.mem_addTable_of_ne (d := d) differs
    change databaseContents (d.addTable table) name = _
    rw [databaseContents, databaseContents, Database.settings_addTable, decide_eq_decide.2 tables]
  | writeSetting table =>
    have differs : name ≠ table := by
      rintro rfl
      exact other rfl
    unfold ScriptedServer.obey
    cases described : ScriptedServer.described? ps with
    | none => rfl
    | some entry =>
      exact congrArg _ (Database.lookup_assign_of_ne differs _ _)
  | _ => rfl

/-- The tables of the engine that follows a script. -/
def databaseTables (fate : Nat → String → Fate) : Tables (ofDatabase fate) where
  Contents := Bool × Option (List (String × StoredSetting))
  contents := databaseContents
  frame _ _ _ ps d q _ own none :=
    have chars := tableName_chars q own
    databaseContents_obey d ps fun table => none (Understood.mentions_of_table table chars.1 chars.2)

end Engine
end Tenancy
