import Tenancy.Proofs.Schema.Composition
import Tenancy.Proofs.Schema.Statements

/-!
# How definitions pass to the server

The lease of a tenant changes one word of a definition: the name of the table, where the table is the
tenant's own (`Table.serverName`). `Becomes` says of a piece what is sent for it; it is put together like
`Piece`, from parts that are sent as they stand (`Fixed`) and from names of tables. `definitions_pass` says it
of every definition of a table in the inventory, and of the computation of its derived columns.
-/

namespace Tenancy.Schema
open Text Sql Connection

/-- A definition of the same object on another table. -/
def Definition.onTable (name : String) : Definition → Definition
  | .createTable _ columns primaryKey => .createTable name columns primaryKey
  | .addColumn _ column type => .addColumn name column type
  | .createFunction function assignments => .createFunction function assignments
  | .dropTrigger trigger _ => .dropTrigger trigger name
  | .createTrigger trigger _ => .createTrigger trigger name
  | .createIndex index _ method elements => .createIndex index name method elements

/-- The name of a table at the server. -/
def Table.serverName (t : Table) (p : TablePrefix) : String := if t.common then t.name else p.apply t.name

/-! ## What becomes of pieces -/

/-- A piece that is sent as another text. -/
structure Becomes (p : TablePrefix) (s s' : String) : Prop extends Piece p s where
  sent : mapWords (leased p) s.toList = s'.toList

/-- A piece that is sent as it stands. -/
abbrev Fixed (p : TablePrefix) (s : String) : Prop := Becomes p s s

/-- What goes between the pieces of statements names nothing. -/
lemma mute_texts : ∀ s ∈ leadTexts ++ (linkTexts ++ trailTexts), Mute s.toList := by
  decide +kernel

namespace Becomes
variable {p : TablePrefix} {s s' t t' g : String}

/-- A piece without own tables stays as it is. -/
lemma fixed (piece : Piece p s) (still : ∀ w ∈ words s.toList, w.map Char.toLower ∉ ownTables) :
    Fixed p s where
  toPiece := piece
  sent := mapWords_eq_self fun w mem => by rw [leased_eq, if_neg (still w mem)]

/-- Mute code is sent as it stands. -/
lemma of_mute (mute : Mute s.toList) : Fixed p s :=
  fixed (.of_checked mute.checked) fun w mem own => ((mute.2.2 w mem).2.2 _ own).1 rfl

/-- Two pieces that no word joins become two others. -/
lemma append (hs : Becomes p s s') (ht : Becomes p t t') (apart : Apart s.toList t.toList) :
    Becomes p (s ++ t) (s' ++ t') where
  toPiece := hs.toPiece.append ht.toPiece apart
  sent := by rw [String.toList_append, String.toList_append, mapWords_append apart, hs.sent, ht.sent]

/-- What leads to a piece stays in front of it. -/
lemma lead (mem : g ∈ leadTexts) (ht : Becomes p t t') : Becomes p (g ++ t) (g ++ t') := by
  have still : Fixed p g := of_mute (mute_texts g (List.mem_append_left _ mem))
  exact still.append ht (.inl (leads g mem).2.2)

/-- What trails a piece stays behind it. -/
lemma trail (hs : Becomes p s s') (mem : g ∈ linkTexts ++ trailTexts) : Becomes p (s ++ g) (s' ++ g) := by
  have trails : Trails g.toList := by
    rcases List.mem_append.1 mem with mem | mem
    · exact (links g mem).2
    · exact trails g mem
  have still : Fixed p g := of_mute (mute_texts g (List.mem_append_right _ mem))
  exact hs.append still (.inr trails.2)

/-- What links two pieces stays between them. -/
lemma link (hs : Becomes p s s') (mem : g ∈ linkTexts) (ht : Becomes p t t') :
    Becomes p (s ++ g ++ t) (s' ++ g ++ t') :=
  (hs.trail (List.mem_append_left _ mem)).append ht ((links g mem).1.apart s t)

/-- Pieces that stay do so when they are linked. -/
lemma intercalate (mem : g ∈ linkTexts) {texts : List String} (all : ∀ s ∈ texts, Fixed p s) :
    Fixed p (g.intercalate texts) := by
  induction texts with
  | nil =>
    rw [String.intercalate_nil]
    exact fixed (.of_checked (by decide +kernel)) fun w mem => by cases mem
  | cons s texts ih =>
    obtain ⟨head, tail⟩ := List.forall_mem_cons.1 all
    cases texts with
    | nil => rwa [String.intercalate_singleton]
    | cons t texts =>
      rw [String.intercalate_cons_of_ne_nil (by simp)]
      exact head.link mem (ih tail)

/-- What carries the tenant's prefix is sent as it stands. -/
lemma apply {a : String} (mem : a ∈ Inventory.ownNames) : Fixed p (p.apply a) := by
  have carries := Leased.of_apply (p := p) mem
  refine fixed (.apply mem) fun w memw own => ?_
  rw [words_eq_singleton carries.some carries.word, List.mem_singleton] at memw
  subst memw
  refine carries.proper.not_mem_ownTables ?_
  rwa [lower_of_isAscii (isAscii_of_isInert carries.inert)]

/-- What is sent for a piece. -/
lemma adapt_eq {c : Connection} (serves : Serves c p) (some : s.toList ≠ []) (h : Becomes p s s') :
    c.adapt s = s' := by
  rw [h.toPiece.adapt_eq serves some, h.sent, String.ofList_toList]

end Becomes

/-! ## Definitions -/

/-- Whether a definition is about a table, and its other parts are sent as they stand. -/
def Definition.Fits (p : TablePrefix) (table : String) : Definition → Prop
  | .createTable name columns primaryKey =>
    name = table ∧ (∀ c ∈ columns, Fixed p c.1 ∧ Fixed p c.2) ∧ ∀ k ∈ primaryKey, Fixed p k
  | .addColumn name column type => name = table ∧ Fixed p column ∧ Fixed p type
  | .createFunction function assignments => (Definition.createFunction function assignments).Made p
  | .dropTrigger trigger name | .createTrigger trigger name => Fixed p trigger ∧ name = table
  | .createIndex index name method elements =>
    Fixed p index ∧ name = table ∧ Fixed p method.name ∧ Fixed p elements

section Definition
variable {p : TablePrefix} {table name : String} {d : Definition}

/-- A definition that fits a table is one on that table. -/
lemma Definition.Fits.onTable_eq (fits : d.Fits p table) : d.onTable table = d := by
  cases d with
  | createTable _ columns primaryKey => rw [Definition.onTable, fits.1]
  | addColumn _ column type => rw [Definition.onTable, fits.1]
  | createFunction function assignments => rfl
  | dropTrigger trigger _ => rw [Definition.onTable, fits.2]
  | createTrigger trigger _ => rw [Definition.onTable, fits.2]
  | createIndex index _ method elements => rw [Definition.onTable, fits.2.1]

/-- The creation of a table becomes that of the tenant's. -/
lemma becomes_createTable {columns : List (String × String)} {primaryKey : List String}
    (fits : (Definition.createTable table columns primaryKey).Fits p table)
    (becomes : Becomes p table name) :
    Becomes p (Definition.createTable table columns primaryKey).sql
      (Definition.createTable name columns primaryKey).sql := by
  obtain ⟨-, all, keys⟩ := fits
  have line : ∀ c ∈ columns, Fixed p (c.1 ++ " " ++ c.2) := fun c mem =>
    (all c mem).1.link (by decide) (all c mem).2
  have key : Fixed p ("PRIMARY KEY (" ++ ", ".intercalate primaryKey ++ ")") :=
    (Becomes.lead (by decide) (.intercalate (by decide) keys)).trail (by decide)
  have lines : ∀ s ∈ columns.map (fun c => s!"{c.1} {c.2}") ++
      ["PRIMARY KEY (" ++ ", ".intercalate primaryKey ++ ")"], Fixed p s := by
    intro s mem
    rcases List.mem_append.1 mem with mem | mem
    · obtain ⟨c, memc, rfl⟩ := List.mem_map.1 mem
      exact line c memc
    · rw [List.mem_singleton.1 mem]
      exact key
  exact ((Becomes.lead (by decide) becomes).link (by decide)
    (.intercalate (by decide) lines)).trail (by decide)

/-- A definition becomes that on another table, unless it is that of a function. -/
lemma becomes_definition (fits : d.Fits p table) (becomes : Becomes p table name)
    (other : ∀ function assignments, d ≠ .createFunction function assignments) :
    Becomes p d.sql (d.onTable name).sql := by
  have document : Fixed p documentColumn := .of_mute (by decide +kernel)
  cases d with
  | createTable table' columns primaryKey =>
    obtain rfl := fits.1
    exact becomes_createTable fits becomes
  | addColumn table' column type =>
    obtain ⟨rfl, hc, ht⟩ := fits
    exact ((Becomes.lead (by decide) becomes).link (by decide) hc).link (by decide) ht
  | createFunction function assignments => exact absurd rfl (other function assignments)
  | dropTrigger trigger table' =>
    obtain ⟨ht, rfl⟩ := fits
    exact (Becomes.lead (by decide) ht).link (by decide) becomes
  | createTrigger trigger table' =>
    obtain ⟨ht, rfl⟩ := fits
    have runs : Fixed p ("FOR EACH ROW EXECUTE FUNCTION " ++ trigger ++ "()") :=
      (Becomes.lead (by decide) ht).trail (by decide)
    exact (((Becomes.lead (by decide) ht).link (by decide) document).link (by decide) becomes).link
      (by decide) runs
  | createIndex index table' method elements =>
    obtain ⟨hi, rfl, hm, he⟩ := fits
    exact ((((Becomes.lead (by decide) hi).link (by decide) becomes).link (by decide) hm).link
      (by decide) he).trail (by decide)

/-- What is sent of a definition is that of the same object on the table as it is named at the server. -/
lemma adapt_definition {c : Connection} (serves : Serves c p) (fits : d.Fits p table)
    (becomes : Becomes p table name) : c.adapt d.sql = (d.onTable name).sql := by
  by_cases function : ∃ f assignments, d = .createFunction f assignments
  · obtain ⟨f, assignments, rfl⟩ := function
    exact adapt_createFunction serves fits
  · exact (becomes_definition fits becomes fun f assignments eq =>
      function ⟨f, assignments, eq⟩).adapt_eq serves d.startsWith.ne_nil

end Definition

/-! ## The tables of the inventory -/

/-- In a text that is a single word, the word is the text. -/
lemma mapWords_eq {f : List Char → List Char} {w : List Char} (some : w ≠ []) (word : w.all isWord) :
    mapWords f w = f w := by
  have whole : mapWords f (w ++ []) = f w ++ mapWords f [] := mapWords_word some word rfl
  rwa [List.append_nil, show mapWords f [] = [] from rfl, List.append_nil] at whole

/-- The names of common tables stay as they are. -/
lemma mute_common : ∀ t ∈ Inventory.tables, t.common = true → Mute t.name.toList := by
  decide +kernel

section Inventory
variable {p : TablePrefix} {t : Table} {b : Blueprint} (memt : t ∈ Inventory.tables)
include memt

/-- The name of a table gets the prefix if the table is the tenant's own. -/
lemma becomes_name : Becomes p t.name (t.serverName p) := by
  unfold Table.serverName
  cases common : t.common with
  | true => exact .of_mute (mute_common t memt common)
  | false =>
    have own : t.name.toList ∈ ownTables :=
      List.mem_map_of_mem (List.mem_filter.2 ⟨memt, by rw [common]; rfl⟩)
    obtain ⟨some, chars⟩ := tableName_chars none (mem_ownTables.2 own)
    have word := all_of_imp (fun _ h => isWord_of_isNameChar (isNameChar_of_isPrefixChar h)) chars
    refine ⟨.of_checked (Inventory.sound t memt).name, ?_⟩
    change mapWords (leased p) (tableName none t.name).toList = (p.apply t.name).toList
    rw [mapWords_eq some word, leased_eq, map_toLower_of_isPrefixChar chars, p.toList_apply]
    exact if_pos own

/-- So do those of columns and their types. -/
lemma fixed_columns : ∀ c ∈ t.columns b, Fixed p c.1 ∧ Fixed p c.2 := fun c mem =>
  ⟨.of_mute (mute_columns memt c mem).1, .of_mute (mute_columns memt c mem).2⟩

variable (hp : b.tablePrefix = some p)
include hp

/-- So do those of objects, which have their prefix already. -/
lemma fixed_objectName (own : t.common = false) {suffix : String} (mem : suffix ∈ t.objectSuffixes) :
    Fixed p (b.objectName t suffix) := by
  obtain ⟨a, mema, eq⟩ := exists_objectName memt own hp mem
  rw [eq]
  exact .apply mema

/-- Every definition of a table is about the table, and its other parts are sent as they stand. -/
lemma fits_of_mem_definitions {ds : List Definition} (describes : t.definitions b = .ok ds) :
    ∀ d ∈ ds, d.Fits p t.name := by
  have made := made_of_mem_definitions memt hp describes
  obtain ⟨assignments, -, rfl⟩ := t.eq_of_definitions describes
  simp only [List.forall_mem_append, List.forall_mem_cons] at made ⊢
  obtain ⟨⟨⟨-, -⟩, function⟩, -⟩ := made
  refine ⟨⟨⟨?_, ?_⟩, ?_⟩, ?_⟩
  · rw [t.creation_eq]
    exact ⟨rfl, fixed_columns memt, fun k mem => .of_mute (mute_primaryKey memt k mem)⟩
  · rw [t.missingColumns_eq]
    intro d mem
    obtain ⟨c, memc, rfl⟩ := List.mem_map.1 mem
    obtain ⟨name, type⟩ := fixed_columns memt c ((t.mem_columns b c).2 (.inr memc))
    exact ⟨rfl, name, type⟩
  · intro d mem
    have made := function d mem
    unfold Table.syncDefinitions at mem
    split at mem
    · next derives =>
      have trigger : Fixed p (b.objectName t "sync") :=
        fixed_objectName memt hp (not_common_of_derives memt derives) (by simp [Table.objectSuffixes])
      simp only [Table.syncTrigger, List.mem_cons, List.not_mem_nil, or_false] at mem
      rcases mem with rfl | rfl | rfl
      · exact made
      · exact ⟨trigger, rfl⟩
      · exact ⟨trigger, rfl⟩
    · cases mem
  · rw [t.indexDefinitions_eq]
    intro d mem
    obtain ⟨⟨name, x⟩, memx, rfl⟩ := List.mem_map.1 mem
    obtain ⟨own, ⟨suffix, mems, rfl⟩, elements⟩ := parts_of_mem_builtIndexes memt _ memx
    exact ⟨fixed_objectName memt hp own mems, t.table_of_mem_builtIndexes b _ memx,
      .of_mute (mute_method _), .of_mute elements⟩

omit hp in
/-- The computation of derived columns anew is sent as that on the table as it is named at the server. -/
lemma adapt_backfill {c : Connection} (serves : Serves c p) :
    (t.backfill b).map c.adapt = ({ t with name := t.serverName p }).backfill b := by
  have document : Fixed p documentColumn := .of_mute (mute_commonTexts _ (by decide))
  have present : Fixed p ("WHERE " ++ documentColumn ++ " IS NOT NULL") :=
    (Becomes.lead (by decide) document).trail (by decide)
  have whole := (((Becomes.lead (g := "UPDATE ") (by decide) (becomes_name (p := p) memt)).link
    (g := " SET ") (by decide) document).link (g := " = ") (by decide) document).link
    (g := " ") (by decide) present
  have sent := whole.adapt_eq serves (by simp)
  have same : b.derives { t with name := t.serverName p } = b.derives t := rfl
  unfold Table.backfill
  rw [same]
  split
  · exact congrArg some sent
  · rfl

end Inventory

/-- The definitions of a table, and the computation of its derived columns anew, pass to the server as they
are written, but with the name of the table as it is there. -/
theorem definitions_pass {c : Connection} {p : TablePrefix} (serves : Serves c p) (b : Blueprint)
    (tenant : b.tablePrefix = some p) : ∀ t ∈ Inventory.tables,
    (∃ ds, t.definitions b = .ok ds ∧
      ∀ d ∈ ds, d.onTable t.name = d ∧ c.adapt d.sql = (d.onTable (t.serverName p)).sql) ∧
    (t.backfill b).map c.adapt = ({ t with name := t.serverName p }).backfill b := by
  intro t mem
  obtain ⟨ds, describes⟩ := Inventory.exists_definitions mem b
  refine ⟨⟨ds, describes, fun d memd => ?_⟩, adapt_backfill mem serves⟩
  have fits := fits_of_mem_definitions mem tenant describes d memd
  exact ⟨fits.onTable_eq, adapt_definition serves fits (becomes_name mem)⟩

/-- The definitions of Ada's people, among them that of the index on the documents. -/
theorem definitions_pass_ada :
    let p : TablePrefix := ⟨"ada_", by decide⟩
    let c : Connection :=
      { address := ⟨"localhost", 5432, "trees", "ada", none, [], .url⟩, channel := .direct ⟨0⟩,
        lease := some ⟨p, .standard⟩ }
    let b : Blueprint := { tablePrefix := some p, documents := true, extensions := ["pg_trgm"] }
    let index : Definition := .createIndex "ada_person_json_gin" "person" .gin "json_data jsonb_path_ops"
    Serves c p ∧ b.tablePrefix = some p ∧ Inventory.person ∈ Inventory.tables ∧
      ∃ ds, Inventory.person.definitions b = .ok ds ∧
        (∀ d ∈ ds, c.adapt d.sql = (d.onTable "ada_person").sql) ∧ index ∈ ds ∧
          c.adapt
              "CREATE INDEX IF NOT EXISTS ada_person_json_gin ON person USING gin (json_data jsonb_path_ops)" =
            "CREATE INDEX IF NOT EXISTS ada_person_json_gin ON ada_person USING gin (json_data jsonb_path_ops)" := by
  intro p c b index
  have serves : Serves c p := ⟨rfl, fun _ mem => mem⟩
  have person : Inventory.person ∈ Inventory.tables := List.mem_cons_self
  have name : Inventory.person.serverName p = "ada_person" := by decide +kernel
  obtain ⟨⟨ds, describes, all⟩, -⟩ := definitions_pass serves b rfl _ person
  rw [name] at all
  have mem : index ∈ ds := by
    obtain ⟨assignments, -, rfl⟩ := Inventory.person.eq_of_definitions describes
    have built : index ∈ Inventory.person.indexDefinitions b := by decide +kernel
    exact List.mem_append_right _ built
  exact ⟨serves, rfl, person, ds, describes, fun d mem => (all d mem).2, mem, (all index mem).2⟩

end Tenancy.Schema
