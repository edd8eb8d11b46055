import Tenancy.Proofs.Schema.Savepoints
import Tenancy.Proofs.Schema.Vocabulary

/-!
# How the statements about settings are worded

What the server receives where the upkeep of a schema asks for a setting, writes one or creates their
table. Under a lease the statements name the tenant's table, and their parameters are numbered: the texts
are those of `Sent`, provided that the lease leaves the other words of the statements alone (`Legible`).
-/

namespace Tenancy.Schema
open Text Sql Connection

/-! ## The texts -/

namespace Sent

/-- The wait for a lock. -/
def lock : String := "SELECT pg_advisory_xact_lock(hashtext($1))"

/-- The query for a setting in a table. -/
def settingQuery (documents : Bool) (table : String) : String :=
  (if documents then "SELECT json_data, blob_data FROM " else "SELECT NULL::jsonb, blob_data FROM ") ++
    table ++ " WHERE setting = $1"

/-- The statement that writes a setting into a table. -/
def settingStatement (documents : Bool) (table : String) : String :=
  "INSERT INTO " ++ table ++
    if documents then
      " (setting, json_data, blob_data, change_time) VALUES ($1, $2, $3, now()) " ++
        "ON CONFLICT (setting) DO UPDATE SET json_data = EXCLUDED.json_data, " ++
        "blob_data = EXCLUDED.blob_data, change_time = now()"
    else
      " (setting, blob_data, change_time) VALUES ($1, $2, now()) " ++
        "ON CONFLICT (setting) DO UPDATE SET blob_data = EXCLUDED.blob_data, change_time = now()"

/-- The creation of a table of settings. -/
def creation (documents : Bool) (table : String) : String :=
  "CREATE TABLE IF NOT EXISTS " ++ table ++
    if documents then
      " (\n    setting TEXT NOT NULL,\n    json_data JSONB,\n    blob_data BYTEA,\n" ++
        "    change_time TIMESTAMPTZ NOT NULL DEFAULT now(),\n    PRIMARY KEY (setting)\n)"
    else
      " (\n    setting TEXT NOT NULL,\n    blob_data BYTEA,\n" ++
        "    change_time TIMESTAMPTZ NOT NULL DEFAULT now(),\n    PRIMARY KEY (setting)\n)"

end Sent

/-! ## Words that a lease leaves alone -/

/-- The words of these statements and of those about savepoints, in lower case, but for the name of the
table. -/
def settingWords : List String :=
  ["select", "from", "where", "insert", "into", "values", "on", "conflict", "do", "update", "set",
    "excluded", "create", "table", "if", "not", "exists", "null", "default", "primary", "key", "now",
    "text", "jsonb", "bytea", "timestamptz", "setting", "json_data", "blob_data", "change_time", "s",
    "pg_advisory_xact_lock", "hashtext", "savepoint", "rollback", "to", "release", "pgtenant_schema",
    "pgtenant_ext"]

/-- Whether a connection leaves these words alone: it has no rules but those for legacy statements, and
under its lease none of the words is a table. -/
structure Legible (c : Connection) : Prop where
  legacy : ∀ r ∈ c.rules, r ∈ legacyRules
  plain : ∀ l, c.lease = some l → l.ownership.IsPlain
  clear : ∀ l, c.lease = some l → ∀ w ∈ settingWords, w ∉ l.ownership.own

/-- A connection with the usual tables and rules is legible. -/
lemma Legible.of_standard {c : Connection} (legacy : ∀ r ∈ c.rules, r ∈ legacyRules)
    (standard : ∀ l, c.lease = some l → l.ownership = .standard) : Legible c := by
  have plain := Ownership.isPlain_standard
  have clear : ∀ w ∈ settingWords, w ∉ Ownership.standard.own := by decide +kernel
  refine ⟨legacy, fun l lease => ?_, fun l lease => ?_⟩
  · rwa [standard l lease]
  · rwa [standard l lease]

/-- So is one with the same rules and lease. -/
lemma Legible.congr {c d : Connection} (h : Legible c) (rules : d.rules = c.rules)
    (lease : d.lease = c.lease) : Legible d := by
  obtain ⟨legacy, plain, clear⟩ := h
  rw [← rules] at legacy
  rw [← lease] at plain clear
  exact ⟨legacy, plain, clear⟩

/-- A connection with the same lease gives the same names. -/
lemma table_congr {c d : Connection} (lease : d.lease = c.lease) : d.table = c.table := by
  funext name
  rw [Connection.table, lease]
  rfl

/-- Code with no other words than those that are known, in which rules find nothing. -/
def Worded (known : List String) (cs : List Char) : Prop :=
  cs.all isAscii ∧ cs.all isBare ∧ '?' ∉ cs ∧
    ∀ w ∈ words cs, String.ofList (w.map Char.toLower) ∈ known ∧
      w.map Char.toLower ∉ soughtWords
deriving Decidable

/-- A plain name of a table, which is no word that rules look for whatever prefix it gets. -/
def PlainTable (name : String) : Prop :=
  name.toList ≠ [] ∧ name.toList.all isPrefixChar ∧
    String.ofList (foldName name.toList) = name ∧ ∀ w ∈ soughtWords, ¬ name.toList <:+ w
deriving Decidable

/-- The table of settings has a plain name. -/
lemma plainTable_settingsTable : PlainTable settingsTable := by decide +kernel

section Marked
variable {c : Connection}

/-- Two texts that no word joins are marked each by itself. -/
lemma marked_append (c : Connection) {cs ds : List Char} (apart : Apart cs ds) :
    c.marked (cs ++ ds) = c.marked cs ++ c.marked ds := by
  unfold marked
  cases c.lease with
  | none => rfl
  | some l => exact mapWords_append apart

/-- Words that no lease marks are sent as they are. -/
lemma marked_worded {known : List String} {cs : List Char}
    (clear : ∀ l, c.lease = some l → ∀ w ∈ known, w ∉ l.ownership.own) (h : Worded known cs) :
    c.marked cs = cs := by
  obtain ⟨-, -, -, words⟩ := h
  unfold marked
  cases lease : c.lease with
  | none => rfl
  | some l =>
    refine mapWords_eq_self fun w mem => ?_
    rw [markWord, if_neg]
    intro among
    exact clear l lease _ (words w mem).1 (Lease.mem_words.1 among)

section Named
variable {name : String} (plain : PlainTable name)
include plain

/-- The name of a table is marked as the lease says. -/
lemma marked_table (c : Connection) : c.marked name.toList = (c.table name).toList := by
  obtain ⟨some, chars, folded, -⟩ := plain
  have word := all_of_imp (fun _ => isWord_of_isNameChar)
    (all_of_imp (fun _ => isNameChar_of_isPrefixChar) chars)
  unfold marked
  rw [Connection.table]
  cases c.lease with
  | none =>
    dsimp only
    rw [folded]
  | some l =>
    have single (f : List Char → List Char) : mapWords f name.toList = f name.toList := by
      have whole : mapWords f (name.toList ++ []) = f name.toList ++ mapWords f [] :=
        mapWords_word some word rfl
      rwa [List.append_nil, show mapWords f [] = [] from rfl, List.append_nil] at whole
    dsimp only
    have mem : name.toList ∈ l.words ↔ name ∈ l.ownership.own := by
      rw [Lease.mem_words, String.ofList_toList]
    rw [single, markWord, foldName_quoteName, String.ofList_toList, Lease.table, folded,
      map_toLower_of_isPrefixChar chars]
    simp only [mem]
    split
    · rw [l.tablePrefix.toList_apply]
    · rfl

/-- A table has its own name, or that with a prefix. -/
lemma table_cases (c : Connection) :
    c.table name = name ∨ ∃ p : TablePrefix, c.table name = p.apply name := by
  obtain ⟨-, -, folded, -⟩ := plain
  rw [Connection.table]
  cases c.lease with
  | none => exact .inl folded
  | some l =>
    dsimp only
    rw [foldName_quoteName, String.ofList_toList, Lease.table, folded]
    split
    · exact .inr ⟨_, rfl⟩
    · exact .inl rfl

end Named

/-- Whether a name is one that a table of settings can have. -/
structure SettingsName (table : String) : Prop where
  some : table.toList ≠ []
  chars : table.toList.all isPrefixChar
  clear : table.toList ∉ soughtWords

/-- With or without a prefix, a plain name is one that the table of settings could have. -/
lemma settingsName_of_plain {name : String} (plain : PlainTable name) (c : Connection) :
    SettingsName (c.table name) := by
  have known := table_cases plain c
  obtain ⟨some, chars, -, clear⟩ := plain
  rcases known with eq | ⟨p, eq⟩
  · rw [eq]
    exact ⟨some, chars, fun sought => clear _ sought List.suffix_rfl⟩
  · rw [eq]
    refine ⟨?_, ?_, fun sought => clear _ sought ?_⟩
    · rw [p.toList_apply]
      simp [some]
    · rw [p.toList_apply, List.all_append, p.sanitized.2.2.2, chars]
      rfl
    · rw [p.toList_apply]
      exact List.suffix_append _ _

/-- The table of settings has a name as it is looked for. -/
lemma settingsName_table (c : Connection) : SettingsName (c.table settingsTable) :=
  settingsName_of_plain plainTable_settingsTable c

/-! ## Statements as they are sent -/

/-- Code with no other words is sent with its parameters numbered. -/
lemma Legible.adapt_worded (legible : Legible c) {sql : String} (some : sql.toList ≠ [])
    (h : Worded settingWords sql.toList) :
    c.adapt sql = String.ofList (numberCode 0 sql.toList).1 := by
  have still := marked_worded legible.clear h
  obtain ⟨ascii, bare, mark, known⟩ := h
  have sent := adapt_eq_numbered legible.legacy legible.plain some ascii bare (by rwa [still])
    (by rw [still]; exact ⟨ascii, mark, fun w mem => (known w mem).2⟩)
  rwa [still] at sent

/-- Whether `a` and `z` can stand around the name of a table in a statement: their words are known, none
of them runs into the name, and with its parameters numbered `z` is `z'`. -/
def Frames (known : List String) (a z z' : List Char) : Prop :=
  Worded known a ∧ Worded known z ∧ '%' ∉ a ∧ a.getLast?.any isWord = false ∧
    z.head?.any isWord = false ∧ (numberCode 0 z).1 = z'
deriving Decidable

/-- A statement about a table is sent with the name of the table as the lease has it and its parameters
numbered. -/
theorem adapt_framed (legacy : ∀ r ∈ c.rules, r ∈ legacyRules)
    (leased : ∀ l, c.lease = some l → l.ownership.IsPlain) {known : List String}
    (unowned : ∀ l, c.lease = some l → ∀ w ∈ known, w ∉ l.ownership.own) {name : String}
    (plain : PlainTable name) {sql a z z' : String} (eq : sql = a ++ name ++ z)
    (frames : Frames known a.toList z.toList z'.toList) : c.adapt sql = a ++ c.table name ++ z' := by
  obtain ⟨head, tail, percent, starts, ends, numbers⟩ := frames
  obtain ⟨some, chars, clear⟩ := settingsName_of_plain plain c
  have inner := all_of_imp (fun _ => isNameChar_of_isPrefixChar) chars
  have word := all_of_imp (fun _ => isWord_of_isNameChar) inner
  have inert := all_of_imp (fun _ => isInert_of_isNameChar) inner
  rw [← String.toList_inj, String.toList_append, String.toList_append, ← numbers, List.append_assoc]
  have code : sql.toList = a.toList ++ (name.toList ++ z.toList) := by
    rw [eq, String.toList_append, String.toList_append, List.append_assoc]
  generalize a.toList = as, z.toList = zs at *
  -- The lease marks the name alone, so the words are those around it and the marked name.
  have marks : c.marked sql.toList = as ++ ((c.table name).toList ++ zs) := by
    rw [code, marked_append c (.inl starts), marked_append c (.inr ends), marked_worded unowned head,
      marked_worded unowned tail, marked_table plain]
  have split : words (as ++ ((c.table name).toList ++ zs)) =
      words as ++ ((c.table name).toList :: words zs) := by
    rw [words_append (.inl starts), words_word some word ends]
  have inert' := all_of_imp (fun _ => isInert_of_isNameChar)
    (all_of_imp (fun _ => isNameChar_of_isPrefixChar) plain.2.1)
  -- Parameters stand behind the name only.
  have numbered : numberCode 0 (as ++ ((c.table name).toList ++ zs)) =
      (as ++ ((c.table name).toList ++ (numberCode 0 zs).1), (numberCode 0 zs).2) := by
    rw [numberCode_head 0 percent, numberCode_head 0 (not_mem_of_isInert (by decide) inert)]
  have ordinary : Ordinary (as ++ ((c.table name).toList ++ zs)) := by
    refine ⟨?_, ?_, ?_⟩
    · rw [List.all_append, List.all_append, head.1, isAscii_of_isInert inert, tail.1]
      rfl
    · rw [List.mem_append, List.mem_append, not_or, not_or]
      exact ⟨head.2.2.1, not_mem_of_isInert (by decide) inert, tail.2.2.1⟩
    · rw [split]
      intro w mem
      rcases List.mem_append.1 mem with mem | mem
      · exact (head.2.2.2 w mem).2
      rcases List.mem_cons.1 mem with rfl | mem
      · rwa [map_toLower_of_isPrefixChar chars]
      · exact (tail.2.2.2 w mem).2
  have someCode : sql.toList ≠ [] := by
    rw [code]
    simp [plain.1]
  have sent := adapt_eq_numbered legacy leased someCode
    (by rw [code]; simp [List.all_append, head.1, isAscii_of_isInert inert', tail.1])
    (by rw [code]; simp [List.all_append, head.2.1, isBare_of_isInert inert', tail.2.1])
    (by rw [marks]; simp [List.all_append, head.2.1, isBare_of_isInert inert, tail.2.1])
    (by rwa [marks])
  rw [sent, marks, numbered, String.toList_ofList]

/-- So is a statement about the table of settings. -/
lemma Legible.adapt_table (legible : Legible c) {sql a z z' : String}
    (eq : sql = a ++ settingsTable ++ z) (frames : Frames settingWords a.toList z.toList z'.toList) :
    c.adapt sql = a ++ c.table settingsTable ++ z' :=
  adapt_framed legible.legacy legible.plain legible.clear plainTable_settingsTable eq frames

variable (legible : Legible c)
include legible

/-- The statement that takes a lock, as it is sent. -/
theorem Legible.adapt_lock :
    c.adapt "SELECT pg_advisory_xact_lock(hashtext(%s))" = Sent.lock := by
  rw [legible.adapt_worded (by decide) (by decide +kernel)]
  decide +kernel

/-- Statements about savepoints are sent as they stand. -/
theorem Legible.adapt_savepoint : ∀ sql ∈ savepointStatements, c.adapt sql = sql := by
  have check : ∀ sql ∈ savepointStatements, sql.toList ≠ [] ∧ Worded settingWords sql.toList ∧
      String.ofList (numberCode 0 sql.toList).1 = sql := by
    decide +kernel
  intro sql mem
  obtain ⟨some, worded, numbered⟩ := check sql mem
  rw [legible.adapt_worded some worded, numbered]

/-- The query for a setting, as it is sent. -/
theorem Legible.adapt_settingQuery (site : Site) :
    c.adapt site.settingQuery = Sent.settingQuery site.documents (c.table settingsTable) := by
  unfold Site.settingQuery Sent.settingQuery
  cases site.documents with
  | true =>
    exact legible.adapt_table (a := "SELECT json_data, blob_data FROM ") (z := " WHERE setting = %s")
      (by decide +kernel) (by decide +kernel)
  | false =>
    exact legible.adapt_table (a := "SELECT NULL::jsonb, blob_data FROM ")
      (z := " WHERE setting = %s") (by decide +kernel) (by decide +kernel)

/-- The statement that writes a setting, as it is sent. -/
theorem Legible.adapt_settingStatement (site : Site) :
    c.adapt site.settingStatement =
      Sent.settingStatement site.documents (c.table settingsTable) := by
  unfold Site.settingStatement Sent.settingStatement
  cases site.documents with
  | true =>
    refine legible.adapt_table (a := "INSERT INTO ")
      (z := " (setting, json_data, blob_data, change_time) VALUES (%s, %s, %s, now()) " ++
        "ON CONFLICT (setting) DO UPDATE SET json_data = EXCLUDED.json_data, " ++
        "blob_data = EXCLUDED.blob_data, change_time = now()")
      (by decide +kernel) ?_
    -- The characters of a literal are those that it is made of; to decode its bytes takes far longer.
    simp only [if_true, String.toList_append]
    repeat rw [String.toList_ofList]
    decide +kernel
  | false =>
    refine legible.adapt_table (a := "INSERT INTO ")
      (z := " (setting, blob_data, change_time) VALUES (%s, %s, now()) " ++
        "ON CONFLICT (setting) DO UPDATE SET blob_data = EXCLUDED.blob_data, change_time = now()")
      (by decide +kernel) ?_
    simp only [Bool.false_eq_true, if_false, String.toList_append]
    repeat rw [String.toList_ofList]
    decide +kernel

/-- The creation of the table of settings, as it is sent. -/
theorem Legible.adapt_creation (b : Blueprint) :
    c.adapt (Inventory.settings.creation b).sql =
      Sent.creation b.documents (c.table settingsTable) := by
  have same : (Inventory.settings.creation b).sql =
      (Inventory.settings.creation { documents := b.documents }).sql := rfl
  rw [same]
  unfold Sent.creation
  cases b.documents with
  | true =>
    refine legible.adapt_table (a := "CREATE TABLE IF NOT EXISTS ")
      (z := " (\n    setting TEXT NOT NULL,\n    json_data JSONB,\n    blob_data BYTEA,\n" ++
        "    change_time TIMESTAMPTZ NOT NULL DEFAULT now(),\n    PRIMARY KEY (setting)\n)")
      (by decide +kernel) ?_
    simp only [if_true, String.toList_append]
    repeat rw [String.toList_ofList]
    decide +kernel
  | false =>
    refine legible.adapt_table (a := "CREATE TABLE IF NOT EXISTS ")
      (z := " (\n    setting TEXT NOT NULL,\n    blob_data BYTEA,\n" ++
        "    change_time TIMESTAMPTZ NOT NULL DEFAULT now(),\n    PRIMARY KEY (setting)\n)")
      (by decide +kernel) ?_
    simp only [Bool.false_eq_true, if_false, String.toList_append]
    repeat rw [String.toList_ofList]
    decide +kernel

end Marked

end Tenancy.Schema
