import Tenancy.Proofs.Schema.DatabaseLedger
import Tenancy.Proofs.Schema.Passage

/-!
# Every table is created

Upkeep that creates the tables of a schema, or upgrades them, leaves every table of the inventory in the
database, each under the name that the lease gives it (`sees_complete`). The statement that creates a table
is sent with that name, whatever its columns (`Lucid.adapt_creation`); a `Catalogue` is a ledger in which
such a statement makes a table, and which loses none to what comes later.
-/

namespace Tenancy

namespace Schema
open Text Sql Connection Engine

/-! ## How the creation of a table is worded -/

/-- How each of them starts. -/
def creationHead : String := "CREATE TABLE IF NOT EXISTS "

/-- The lines between the parentheses of the statement that creates a table: its columns and its key. -/
def lineTexts (columns : List (String × String)) (primaryKey : List String) : List (List Char) :=
  columns.map (fun column => column.1.toList ++ ' ' :: column.2.toList) ++
    ["PRIMARY KEY (".toList ++ (", ".toList.intercalate (primaryKey.map String.toList) ++ ")".toList)]

/-- The lines and the parentheses. -/
def columnText (columns : List (String × String)) (primaryKey : List String) : List Char :=
  " (\n    ".toList ++ (",\n    ".toList.intercalate (lineTexts columns primaryKey) ++ "\n)".toList)

/-- What follows the name of a table in the statement that creates it. -/
def Table.columnText (t : Table) (documents : Bool) : List Char :=
  match t.creation { documents } with
  | .createTable _ columns primaryKey => Schema.columnText columns primaryKey
  | _ => []

/-- The words of these texts, in lower case. -/
def creationWords : List (List Char) :=
  Inventory.tables.flatMap fun t => [false, true].flatMap fun documents =>
    (words (t.columnText documents)).map fun w => w.map Char.toLower

/-- Whether a connection leaves the words of these statements alone too. -/
structure Lucid (c : Connection) : Prop extends Legible c where
  columns : ∀ l, c.lease = some l → ∀ w ∈ creationWords, String.ofList w ∉ l.ownership.own

/-- What can be checked of the columns of all tables. -/
lemma columnTexts_checked : ∀ t ∈ Inventory.tables, ∀ documents : Bool,
    (t.columnText documents).all isInert ∧ ∀ w ∈ (words (t.columnText documents)).map (·.map Char.toLower),
      w ∉ soughtWords ∧ w ∉ ownTables := by
  decide +kernel

/-- A connection with the usual tables and rules is lucid. -/
lemma Lucid.of_standard {c : Connection} (legacy : ∀ r ∈ c.rules, r ∈ legacyRules)
    (standard : ∀ l, c.lease = some l → l.ownership = .standard) : Lucid c := by
  refine ⟨.of_standard legacy standard, fun l lease w mem => ?_⟩
  rw [standard l lease, mem_ownTables, String.toList_ofList]
  obtain ⟨t, memt, mem⟩ := List.mem_flatMap.1 mem
  obtain ⟨documents, -, mem⟩ := List.mem_flatMap.1 mem
  exact ((columnTexts_checked t memt documents).2 w mem).2

/-- So is one with the same rules and lease. -/
lemma Lucid.congr {c d : Connection} (h : Lucid c) (rules : d.rules = c.rules)
    (lease : d.lease = c.lease) : Lucid d := by
  refine ⟨h.toLegible.congr rules lease, ?_⟩
  rw [lease]
  exact h.columns

/-- All tables have plain names. -/
lemma plainTable_of_mem : ∀ t ∈ Inventory.tables, PlainTable t.name := by decide +kernel

/-- The words of the columns are known. -/
lemma mem_creationWords {t : Table} (mem : t ∈ Inventory.tables) (documents : Bool) {w : List Char}
    (memw : w ∈ words (t.columnText documents)) : w.map Char.toLower ∈ creationWords := by
  refine List.mem_flatMap.2 ⟨t, mem, List.mem_flatMap.2 ⟨documents, ?_, List.mem_map.2 ⟨w, memw, rfl⟩⟩⟩
  cases documents with
  | true => simp
  | false => simp

/-- The lines of a creation, as characters. -/
lemma map_toList_lines (columns : List (String × String)) (primaryKey : List String) :
    (columns.map (fun column => column.1 ++ " " ++ column.2) ++
      ["PRIMARY KEY (" ++ ", ".intercalate primaryKey ++ ")"]).map String.toList =
      lineTexts columns primaryKey := by
  rw [List.map_append, List.map_map, List.map_singleton, String.toList_append, String.toList_append,
    String.toList_intercalate, List.append_assoc, lineTexts]
  congr 1
  refine List.map_congr_left fun column _ => ?_
  simp

/-- The statement that creates a table is a head, its name and its columns. -/
lemma toList_createTable (table : String) (columns : List (String × String))
    (primaryKey : List String) :
    (Definition.createTable table columns primaryKey).sql.toList =
      creationHead.toList ++ (table.toList ++ columnText columns primaryKey) := by
  have text : (Definition.createTable table columns primaryKey).sql = creationHead ++ table ++
      " (\n    " ++ ",\n    ".intercalate (columns.map (fun column => column.1 ++ " " ++ column.2) ++
        ["PRIMARY KEY (" ++ ", ".intercalate primaryKey ++ ")"]) ++ "\n)" := rfl
  rw [text, String.toList_append, String.toList_append, String.toList_append, String.toList_append,
    String.toList_intercalate, map_toList_lines, List.append_assoc, List.append_assoc,
    List.append_assoc]
  rfl

/-- The statement that creates a table has the name of the table and known words around it. -/
lemma toList_creation (t : Table) (b : Blueprint) :
    (t.creation b).sql.toList =
      creationHead.toList ++ (t.name.toList ++ t.columnText b.documents) := by
  unfold Table.columnText Table.creation
  cases t.layout with
  | record key derived => exact toList_createTable ..
  | plain columns primaryKey => exact toList_createTable ..

/-- A blank stands in front of the columns. -/
lemma head_columnText (t : Table) (documents : Bool) :
    (t.columnText documents).head? = some ' ' := by
  unfold Table.columnText Table.creation
  cases t.layout with
  | record key derived => rfl
  | plain columns primaryKey => rfl

/-- The head and the columns can stand around the name of a table. -/
lemma frames_creation {t : Table} (mem : t ∈ Inventory.tables) (documents : Bool) :
    Frames (settingWords ++ creationWords.map String.ofList) creationHead.toList
      (t.columnText documents) (t.columnText documents) := by
  have head : Worded settingWords creationHead.toList ∧ '%' ∉ creationHead.toList ∧
      creationHead.toList.getLast?.any isWord = false := by
    decide +kernel
  obtain ⟨inert, checked⟩ := columnTexts_checked t mem documents
  obtain ⟨⟨ascii, bare, mark, known⟩, percent, ends⟩ := head
  have numbered := numberCode_head 0 (not_mem_of_isInert (c := '%') (by decide) inert) []
  rw [List.append_nil] at numbered
  refine ⟨⟨ascii, bare, mark, fun w memw => ?_⟩,
    ⟨isAscii_of_isInert inert, isBare_of_isInert inert, not_mem_of_isInert (by decide) inert,
      fun w memw => ?_⟩, percent, ends, by rw [head_columnText]; rfl, ?_⟩
  · exact ⟨List.mem_append_left _ (known w memw).1, (known w memw).2⟩
  · exact ⟨List.mem_append_right _ (List.mem_map_of_mem (mem_creationWords mem documents memw)),
      (checked _ (List.mem_map_of_mem memw)).1⟩
  · rw [numbered]
    simp [numberCode]

/-- A table is created under the name that the lease gives it. -/
theorem Lucid.adapt_creation {c : Connection} (lucid : Lucid c) {t : Table}
    (mem : t ∈ Inventory.tables) (b : Blueprint) :
    c.adapt (t.creation b).sql =
      creationHead ++ c.table t.name ++ String.ofList (t.columnText b.documents) := by
  have unowned (l : Lease) (lease : c.lease = some l) :
      ∀ w ∈ settingWords ++ creationWords.map String.ofList, w ∉ l.ownership.own := by
    intro w memw
    rcases List.mem_append.1 memw with memw | memw
    · exact lucid.clear l lease w memw
    · obtain ⟨v, memv, rfl⟩ := List.mem_map.1 memw
      exact lucid.columns l lease v memv
  refine adapt_framed lucid.legacy lucid.plain unowned (plainTable_of_mem t mem)
    (z := String.ofList (t.columnText b.documents)) ?_ ?_
  · rw [← String.toList_inj, toList_creation]
    simp [String.toList_append]
  · simpa only [String.toList_ofList] using frames_creation mem b.documents

end Schema

/-! ## Catalogues -/

namespace Engine
open Schema Connection

/-- A ledger in whose engine tables come about and stay. -/
structure Catalogue (e : Engine) extends Ledger e where
  /-- A table that is created is there. -/
  raises : ∀ {table : String} (columns : String) (d : e.Data), SettingsName table →
    columns.toList.head? = some ' ' →
    present (contents (e.effect (creationHead ++ table ++ columns) [] d).2 table)
  /-- Nothing that the upkeep of a schema sends takes a table away. -/
  keeps : ∀ (s : Site) {c : Connection} {sql table : String} (ps : List Parameter) (d : e.Data),
    Legible c → s.Statement sql → SettingsName table → present (contents d table) →
    present (contents (e.effect (c.adapt sql) ps d).2 table)

/-- Whether a connection finds every table of a schema. -/
def Catalogue.Complete {e : Engine} (catalogue : e.Catalogue) (c : Connection) (d : e.Data) : Prop :=
  ∀ t ∈ Inventory.tables, catalogue.present (catalogue.contents d (c.table t.name))

/-- The catalogue of the engine that follows a script. -/
def databaseCatalogue (fate : Nat → String → Fate) : Catalogue (ofDatabase fate) where
  toLedger := databaseLedger fate
  raises _ d name blank := by
    rw [databaseLedger_present]
    exact present_create name blank d
  keeps _ _ _ _ ps d _ _ _ present := by
    rw [databaseLedger_present] at present ⊢
    exact present_effect _ ps present

/-! ## What upkeep leaves -/

namespace Watch

/-- What is known of a transaction one by one is known of it at once. -/
lemma Clean.all {e : Engine} {w : Watch e} {s : State e} {ι : Type} {T : ι → Transaction e → Prop}
    {is : List ι} (some : is ≠ []) (each : ∀ i ∈ is, w.Clean (T i) s) :
    w.Clean (fun t => ∀ i ∈ is, T i t) s := by
  obtain ⟨i, rest, rfl⟩ := List.exists_cons_of_ne_nil some
  have clean := each i List.mem_cons_self
  obtain ⟨t, transaction, -, sound⟩ := clean.inside
  refine ⟨clean.toSince, clean.connected, t, transaction, fun j mem => ?_, sound⟩
  obtain ⟨t', transaction', holds, -⟩ := (each j mem).inside
  obtain rfl := Option.some.inj (transaction.symm.trans transaction')
  exact holds

end Watch
end Engine

namespace Schema
open Connection Engine Sql
variable {e : Engine} {c : Connection} {site : Site} {P : e.Data → Prop} {k : Client}
  {start : State e} {base : List (String × e.Data)} (held : c.client? = some k)
  (inside : c.inTransaction = true)
include held inside

/-- What no statement of the upkeep changes lasts through all of it. -/
lemma upkeeping_underway (legible : Legible c) (ledger : e.Ledger)
    (lasts : ∀ sql ps d, site.Statement sql → P d → P (e.effect (c.adapt sql) ps d).2) :
    site.Upkeeping c (Underway start base k P) (State.Working start k) where
  sub _ h := h.toInside.mono fun _ _ => trivial
  execute sql ps statement := .execute held inside fun s h =>
    Underway.run h (Q := fun _ => P) (ofSql_adapt legible.legacy statement.startsWithVerb)
      fun d hd => lasts sql ps d statement hd
  tableExists := by
    let f : Footing e c := underway start base held inside
    exact (f.triple_tableExists (P := P) ledger).weaken (fun _ h => h)
      (fun _ s h => f.mono (fun _ h => h.1) s h) fun _ h => h
  tryExtensions := steady_extensions held inside legible fun sql construction d =>
    lasts sql [] d (.construction construction)

variable (lucid : Lucid c) (catalogue : e.Catalogue)
include lucid

omit held inside in
/-- A schema that is complete stays so with every statement of its upkeep. -/
lemma lasts_complete (sql : String) (ps : List Parameter) (d : e.Data) (statement : site.Statement sql)
    (complete : catalogue.Complete c d) : catalogue.Complete c (e.effect (c.adapt sql) ps d).2 :=
  fun t mem => catalogue.keeps site ps d lucid.toLegible statement
    (settingsName_of_plain (plainTable_of_mem t mem) c) (complete t mem)

/-- When all tables were created, each of them is there. -/
theorem triple_complete :
    Talk.Triple c (Underway start base k fun _ => True) site.createTables
      (fun _ => Underway start base k (catalogue.Complete c)) (State.Working start k) := by
  have before : site.Building c (Underway start base k fun _ => True) (State.Working start k) :=
    building_underway held inside lucid.toLegible fun _ _ _ _ => trivial
  -- Each table is there from its own statement on, whatever comes before and after it.
  have each (t : Table) (mem : t ∈ Inventory.tables) :
      Talk.Triple c (Underway start base k fun _ => True) site.createTables
        (fun _ => Underway start base k fun d =>
          catalogue.present (catalogue.contents d (c.table t.name))) (State.Working start k) := by
    have name := settingsName_of_plain (plainTable_of_mem t mem) c
    refine before.reach (building_underway held inside lucid.toLegible fun sql construction d there =>
      catalogue.keeps site [] d lucid.toLegible (.construction construction) name there) mem
      fun extensions construction => ?_
    refine .perform held inside fun s h => ?_
    refine Underway.run h (Q := fun _ d => catalogue.present (catalogue.contents d (c.table t.name)))
      (ofSql_adapt lucid.legacy (construction.startsWith.mono (by decide))) fun d _ => ?_
    rw [lucid.adapt_creation mem]
    exact catalogue.raises _ d name (by rw [String.toList_ofList, head_columnText])
  have some : Inventory.tables ≠ [] := by simp [Inventory.tables]
  intro s like h
  obtain ⟨like', -⟩ := each Inventory.settings (by simp [Inventory.tables]) s like h
  have left (t : Table) (mem : t ∈ Inventory.tables) := (each t mem s like h).2
  refine ⟨like', ?_⟩
  rcases done : carry site.createTables s with ⟨failure | u, s₁⟩
  · rw [done] at left
    exact left Inventory.settings (by simp [Inventory.tables])
  · rw [done] at left
    exact (Watch.Clean.all some left).mono fun t holds =>
      ⟨(holds Inventory.settings (by simp [Inventory.tables])).1, fun t mem => (holds t mem).2⟩

/-- Upkeep that found something to do leaves every table there. -/
theorem triple_completes :
    Talk.Triple c (Underway start base k fun _ => True) site.upkeep
      (fun outcome => Underway start base k fun d => outcome ≠ .upToDate → catalogue.Complete c d)
      (State.Working start k) := by
  have anything : site.Upkeeping c (Underway start base k fun _ => True) (State.Working start k) :=
    upkeeping_underway held inside lucid.toLegible catalogue.toLedger fun _ _ _ _ _ => trivial
  have complete : site.Upkeeping c (Underway start base k (catalogue.Complete c))
      (State.Working start k) :=
    upkeeping_underway held inside lucid.toLegible catalogue.toLedger
      (lasts_complete lucid catalogue)
  have created : Talk.Triple c (Underway start base k fun _ => True) site.createTables
      (fun _ => Underway start base k (catalogue.Complete c)) (State.Working start k) :=
    triple_complete held inside lucid catalogue
  -- Once the tables were created nothing that follows takes one away, so the outcome may as well be known.
  have concluded (outcome : Outcome) :
      Talk.Triple c (Underway start base k (catalogue.Complete c))
        (site.writeVersion currentVersion >>= fun _ => (pure outcome : Talk Outcome))
        (fun outcome => Underway start base k fun d => outcome ≠ .upToDate → catalogue.Complete c d)
        (State.Working start k) :=
    .bind (complete.writeVersion _) fun _ => .pure _ fun _ h => h.mono fun _ holds =>
      ⟨holds.1, fun _ => holds.2⟩
  have brought : Talk.Triple c (Underway start base k fun _ => True) site.bringUpToDate
      (fun outcome => Underway start base k fun d => outcome ≠ .upToDate → catalogue.Complete c d)
      (State.Working start k) := by
    refine .bind anything.tableExists fun found => ?_
    cases found with
    | false =>
      rw [if_neg Bool.false_ne_true]
      exact .bind (anything.lock _) fun _ => .bind created fun _ => concluded _
    | true =>
      rw [if_pos rfl]
      refine .bind anything.version fun stored => ?_
      split
      · exact .done (fun _ eq => by cases eq) fun _ _ s h => anything.sub s h
      · split
        · refine .bind (anything.lock _) fun _ => ?_
          exact .bind (.bind created fun _ => complete.building.computeAll) fun _ => concluded _
        · exact .pure _ fun _ h => h.mono fun _ holds => ⟨holds.1, fun other => absurd rfl other⟩
  have lasting (outcome : Outcome) : site.Upkeeping c
      (Underway start base k fun d => outcome ≠ .upToDate → catalogue.Complete c d)
      (State.Working start k) :=
    upkeeping_underway held inside lucid.toLegible catalogue.toLedger
      fun sql ps d statement holds other =>
        lasts_complete lucid catalogue sql ps d statement (holds other)
  refine .bind (anything.lock _) fun _ => .bind brought fun outcome => ?_
  exact .bind (lasting outcome).claim fun _ => .pure _ fun _ h => h

omit held inside lucid in
/-- After upkeep that found something to do a connection sees every table of the schema. -/
theorem sees_complete {s s₁ : Scene (State e)} (lucid : Lucid s.connection) {outcome : Outcome}
    (done : carry site.ensure s = (.ok outcome, s₁)) (other : outcome ≠ .upToDate) :
    Sees (catalogue.Complete s.connection) s₁ := by
  have sees := sees_around
    (Q := fun outcome d => outcome ≠ .upToDate → catalogue.Complete s.connection d)
    lucid.toLegible (.trivial s) (fun c k start base held inside rules lease => by
      have complete : catalogue.Complete c = catalogue.Complete s.connection := by
        funext d
        rw [Catalogue.Complete, table_congr lease, Catalogue.Complete]
      rw [← complete]
      exact triple_completes held inside (lucid.congr rules lease) catalogue) done
  exact sees.mono fun d complete => complete other

end Schema
end Tenancy
