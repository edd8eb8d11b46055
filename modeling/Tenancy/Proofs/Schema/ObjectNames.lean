import Mathlib.Data.List.Basic
import Tenancy.Proofs.Schema.Composition

/-!
# The list of object names

`Table.objectNames` is kept beside the definitions of a table, which name functions, triggers and indexes each on
conditions of its own. `Table.objectNames_exact` says that the list has the names of all of them
(`Table.mem_objectNames_of_object?`), that it has no others where columns are derived and the server has the
extensions that the indexes require (`Table.exists_of_mem_objectNames`), and that more extensions bring more indexes
and change nothing else (`Table.definitions_extended`).
-/

namespace Tenancy.Schema

/-! ## Names in texts -/

/-- Whether a text starts with a head and a name, and with a blank or a parenthesis behind the name. -/
def NamedBehind (head name text : String) : Prop :=
  ∃ c ∈ [' ', '('], head.toList ++ (name.toList ++ [c]) <+: text.toList

/-- A text starts the same with more behind it. -/
lemma prefix_toList_append {cs : List Char} {s : String} (h : cs <+: s.toList) (t : String) :
    cs <+: (s ++ t).toList := by
  rw [String.toList_append]
  exact h.trans (List.prefix_append _ _)

/-- A text starts with its head. -/
lemma prefix_head (head text : String) : head.toList <+: (head ++ text).toList :=
  prefix_toList_append (List.prefix_refl _) text

section NamedBehind
variable {head name text : String}

/-- A text with a name behind its head starts with the head. -/
lemma NamedBehind.prefix_head (h : NamedBehind head name text) : head.toList <+: text.toList := by
  obtain ⟨c, -, starts⟩ := h
  exact (List.prefix_append _ _).trans starts

/-- The name is there with more behind it. -/
lemma NamedBehind.append (h : NamedBehind head name text) (more : String) : NamedBehind head name (text ++ more) := by
  obtain ⟨c, mem, starts⟩ := h
  exact ⟨c, mem, prefix_toList_append starts more⟩

end NamedBehind

/-- A name stands behind a head if a blank or a bracket follows it. -/
lemma namedBehind_ofList (head name : String) {c : Char} (mem : c ∈ [' ', '(']) {rest : List Char} :
    NamedBehind head name (head ++ name ++ String.ofList (c :: rest)) :=
  ⟨c, mem, rest, by simp⟩

/-! ## Heads of definitions -/

/-- How the texts start that are about a function, a trigger or an index. -/
def objectHeads : List String :=
  ["CREATE OR REPLACE FUNCTION ", "DROP TRIGGER IF EXISTS ", "CREATE TRIGGER ", "CREATE INDEX IF NOT EXISTS "]

/-- How the texts start that create one. -/
def creatingHeads : List String :=
  ["CREATE OR REPLACE FUNCTION ", "CREATE TRIGGER ", "CREATE INDEX IF NOT EXISTS "]

namespace Definition

/-- The function, trigger or index that a definition is about. -/
def object? : Definition → Option String
  | .createTable .. | .addColumn .. => none
  | .createFunction name _ | .dropTrigger name _ | .createTrigger name _ | .createIndex name .. => some name

/-- How the text of a definition starts. -/
def head : Definition → String
  | .createTable .. => "CREATE TABLE IF NOT EXISTS "
  | .addColumn .. => "ALTER TABLE "
  | .createFunction .. => "CREATE OR REPLACE FUNCTION "
  | .dropTrigger .. => "DROP TRIGGER IF EXISTS "
  | .createTrigger .. => "CREATE TRIGGER "
  | .createIndex .. => "CREATE INDEX IF NOT EXISTS "

/-- What a definition is about is named behind its head. -/
lemma namedBehind_of_object? {d : Definition} {n : String} (about : d.object? = some n) :
    NamedBehind d.head n d.sql := by
  cases d with
  | createTable table columns primaryKey => cases about
  | addColumn table column type => cases about
  | createFunction name assignments =>
    cases about
    exact ((namedBehind_ofList "CREATE OR REPLACE FUNCTION " n (by simp)).append _).append _
  | dropTrigger name table =>
    cases about
    exact (namedBehind_ofList "DROP TRIGGER IF EXISTS " n (by simp)).append table
  | createTrigger name table =>
    cases about
    exact (((((namedBehind_ofList "CREATE TRIGGER " n (by simp)).append _).append _).append _).append _).append _
  | createIndex name table method elements =>
    cases about
    have on : NamedBehind "CREATE INDEX IF NOT EXISTS " n ("CREATE INDEX IF NOT EXISTS " ++ n ++ " ON ") :=
      namedBehind_ofList _ n (by simp)
    exact (((((on.append table).append _).append _).append _).append _).append _

/-- The statement of a definition starts with its head. -/
lemma prefix_sql (d : Definition) : d.head.toList <+: d.sql.toList := by
  cases d with
  | createTable table columns primaryKey =>
    have opens := prefix_head "CREATE TABLE IF NOT EXISTS " table
    exact prefix_toList_append (prefix_toList_append (prefix_toList_append opens _) _) _
  | addColumn table column type =>
    have opens := prefix_head "ALTER TABLE " table
    exact prefix_toList_append (prefix_toList_append (prefix_toList_append (prefix_toList_append opens _) _) _) _
  | createFunction name assignments => exact (namedBehind_of_object? rfl).prefix_head
  | dropTrigger name table => exact (namedBehind_of_object? rfl).prefix_head
  | createTrigger name table => exact (namedBehind_of_object? rfl).prefix_head
  | createIndex name table method elements => exact (namedBehind_of_object? rfl).prefix_head

/-- No head starts like another. -/
lemma head_eq_of_prefix {d : Definition} {head : String} (mem : head ∈ objectHeads)
    (starts : head.toList <+: d.sql.toList) : d.head = head := by
  have apart : ∀ h ∈ "CREATE TABLE IF NOT EXISTS " :: "ALTER TABLE " :: objectHeads, ∀ h' ∈ objectHeads,
      h.toList <+: h'.toList ∨ h'.toList <+: h.toList → h = h' := by decide
  have listed : d.head ∈ "CREATE TABLE IF NOT EXISTS " :: "ALTER TABLE " :: objectHeads := by
    cases d with
    | _ => simp [Definition.head, objectHeads]
  exact apart _ listed _ mem (List.prefix_or_prefix_of_prefix d.prefix_sql starts)

/-- A definition with the head of an object creates one. -/
lemma exists_object?_of_head {d : Definition} (mem : d.head ∈ objectHeads) : ∃ n, d.object? = some n := by
  cases d with
  | createTable table columns primaryKey => exact absurd mem (by simp [head, objectHeads])
  | addColumn table column type => exact absurd mem (by simp [head, objectHeads])
  | _ => exact ⟨_, rfl⟩

/-- Whether a definition is that of an index. -/
def isIndex : Definition → Bool
  | .createIndex .. => true
  | _ => false

/-- Whether a list of definitions is another one with definitions of indexes put in between. -/
structure GainsIndexes (ds ds' : List Definition) : Prop where
  all : ds.Sublist ds'
  others : ds.filter (!·.isIndex) = ds'.filter (!·.isIndex)

end Definition

/-! ## Names of tables -/

namespace Table
variable {t : Table} {b : Blueprint}

/-- What a definition is about has its name in the list that is kept of them. -/
lemma mem_objectNames_of_object? {ds : List Definition} (describes : t.definitions b = .ok ds) {d : Definition}
    (mem : d ∈ ds) {n : String} (about : d.object? = some n) : n ∈ t.objectNames b := by
  obtain ⟨assignments, -, rfl⟩ := eq_of_definitions describes
  simp only [objectNames, List.mem_append, List.mem_cons, List.not_mem_nil, or_false, List.mem_map]
  simp only [creation_eq, missingColumns_eq, indexDefinitions_eq, List.cons_append, List.mem_append,
    List.mem_cons, List.mem_map] at mem
  rcases mem with rfl | (⟨c, -, rfl⟩ | mem) | ⟨i, mem, rfl⟩
  · cases about
  · cases about
  · unfold syncDefinitions syncTrigger at mem
    split at mem
    · simp only [List.mem_cons, List.not_mem_nil, or_false] at mem
      rcases mem with rfl | rfl | rfl
      all_goals
        cases about
        exact .inl (.inl (.inl rfl))
    · cases mem
  · cases about
    unfold builtIndexes at mem
    rcases List.mem_append.1 mem with mem | mem
    · split at mem
      · rcases List.mem_append.1 mem with mem | mem
        · obtain ⟨c, memc, rfl⟩ := List.mem_map.1 mem
          exact .inl (.inr ⟨c, memc, rfl⟩)
        · rw [List.mem_singleton.1 mem]
          exact .inl (.inl (.inr rfl))
      · cases mem
    · obtain ⟨j, memj, rfl⟩ := List.mem_map.1 mem
      exact .inr ⟨j, (List.mem_filter.1 memj).1, rfl⟩

/-- With all that the indexes require, every name in the list is that of something the definitions create. -/
lemma exists_of_mem_objectNames {ds : List Definition} (describes : t.definitions b = .ok ds)
    (derives : b.derives t) (served : ∀ i ∈ t.indexes, ∀ e, i.requires = some e → e ∈ b.extensions)
    {n : String} (mem : n ∈ t.objectNames b) :
    ∃ d ∈ ds, d.object? = some n ∧ d.head ∈ creatingHeads := by
  obtain ⟨assignments, -, whole⟩ := eq_of_definitions describes
  have function : .createFunction (b.objectName t "sync") assignments ∈ ds := by
    rw [whole, syncDefinitions, if_pos derives]
    simp
  have index {i : String × BuiltIndex} (built : i ∈ t.builtIndexes b) :
      .createIndex i.1 i.2.table i.2.method i.2.elements ∈ ds := by
    rw [whole, indexDefinitions_eq]
    exact List.mem_append_right _ (List.mem_map_of_mem built)
  have creates (name table : String) (method : IndexMethod) (elements : String) :
      (Definition.createIndex name table method elements).head ∈ creatingHeads := by
    simp [Definition.head, creatingHeads]
  simp only [objectNames, List.mem_append, List.mem_cons, List.not_mem_nil, or_false, List.mem_map] at mem
  rcases mem with ((rfl | rfl) | ⟨c, memc, rfl⟩) | ⟨i, memi, rfl⟩
  · exact ⟨_, function, rfl, by simp [Definition.head, creatingHeads]⟩
  · have built : (b.objectName t "json_gin", (⟨t.name, .gin, s!"{documentColumn} jsonb_path_ops"⟩ : BuiltIndex)) ∈
        t.builtIndexes b := by
      simp [builtIndexes, derives]
    exact ⟨_, index built, rfl, creates ..⟩
  · have built : (b.objectName t s!"{c.name}_idx", (⟨t.name, .btree, c.name⟩ : BuiltIndex)) ∈ t.builtIndexes b := by
      rw [builtIndexes, if_pos derives]
      exact List.mem_append_left _ (List.mem_append_left _ (List.mem_map_of_mem memc))
    exact ⟨_, index built, rfl, creates ..⟩
  · have builds : t.builds b i := by
      rw [builds, derives, Bool.or_true, Bool.true_and, Option.all_eq_true]
      exact fun e requires => decide_eq_true (served i memi e requires)
    have built : (b.objectName t i.suffix, (⟨t.name, i.method, i.elements⟩ : BuiltIndex)) ∈ t.builtIndexes b :=
      List.mem_append_right _ (List.mem_map_of_mem (List.mem_filter.2 ⟨memi, builds⟩))
    exact ⟨_, index built, rfl, creates ..⟩

/-- More extensions bring more indexes, and change nothing else. -/
lemma definitions_extended {more : List String} (serves : b.extensions ⊆ more) :
    (∀ failure, t.definitions b = .error failure →
      t.definitions { b with extensions := more } = .error failure) ∧
    ∀ ds, t.definitions b = .ok ds → ∃ ds', t.definitions { b with extensions := more } = .ok ds' ∧
      Definition.GainsIndexes ds ds' := by
  -- Only the indexes go by the extensions.
  have extended : t.definitions { b with extensions := more } = (t.assignments b).map fun assignments =>
      t.creation b :: t.missingColumns b ++ t.syncDefinitions b assignments ++
        t.indexDefinitions { b with extensions := more } := definitions_eq t { b with extensions := more }
  have indexes : (t.indexDefinitions b).Sublist (t.indexDefinitions { b with extensions := more }) := by
    refine (List.Sublist.refl (t.coveringIndexes b)).append (List.Sublist.map _ ?_)
    refine List.monotone_filter_right t.indexes fun i builds => ?_
    rw [Table.builds, Bool.and_eq_true, Option.all_eq_true] at builds ⊢
    exact ⟨builds.1, fun e requires => decide_eq_true (serves (of_decide_eq_true (builds.2 e requires)))⟩
  have none (b : Blueprint) : (t.indexDefinitions b).filter (!·.isIndex) = [] := by
    rw [indexDefinitions_eq, List.filter_eq_nil_iff]
    intro d mem
    obtain ⟨i, -, rfl⟩ := List.mem_map.1 mem
    exact Bool.false_ne_true
  rw [extended, definitions_eq]
  rcases t.assignments b with failure | assignments
  · exact ⟨fun _ same => same, fun _ described => nomatch described⟩
  · refine ⟨fun _ failed => (nomatch failed), fun ds described => ⟨_, rfl, ?_⟩⟩
    cases described
    refine ⟨(List.Sublist.refl _).append indexes, ?_⟩
    simp only [List.filter_append, none]

/-- The function, the triggers and the indexes that the definitions of a table are about have their names in the
list. Each name in the list is that of one of those that are created, where columns are derived and the server has
every extension that an index requires. More extensions bring more indexes and change nothing else. -/
theorem objectNames_exact (t : Table) (b : Blueprint) :
    ((∃ ds, t.definitions b = .ok ds) ↔
      (b.derives t → ∀ c ∈ t.derived, ∃ path, Path.parse c.path = .ok path)) ∧
    (∀ ds, t.definitions b = .ok ds →
      (∀ d ∈ ds, ∀ head ∈ objectHeads, head.toList <+: d.sql.toList →
        ∃ n ∈ t.objectNames b, d.object? = some n ∧ NamedBehind head n d.sql) ∧
      (b.documents → t.derived ≠ [] →
        (∀ i ∈ t.indexes, ∀ e, i.requires = some e → e ∈ b.extensions) →
        ∀ n ∈ t.objectNames b, ∃ d ∈ ds, d.object? = some n ∧
          ∃ head ∈ creatingHeads, NamedBehind head n d.sql)) ∧
    ∀ more, b.extensions ⊆ more →
      t.objectNames { b with extensions := more } = t.objectNames b ∧
      (∀ failure, t.definitions b = .error failure →
        t.definitions { b with extensions := more } = .error failure) ∧
      ∀ ds, t.definitions b = .ok ds → ∃ ds', t.definitions { b with extensions := more } = .ok ds' ∧
        Definition.GainsIndexes ds ds' := by
  refine ⟨exists_definitions_iff, fun ds describes => ⟨fun d mem head listed starts => ?_, ?_⟩,
    fun more serves => ⟨rfl, definitions_extended serves⟩⟩
  · obtain rfl := Definition.head_eq_of_prefix listed starts
    obtain ⟨n, about⟩ := Definition.exists_object?_of_head listed
    exact ⟨n, mem_objectNames_of_object? describes mem about, about, Definition.namedBehind_of_object? about⟩
  · intro documents some served n mem
    have derives : b.derives t := by simp [Blueprint.derives, documents, some]
    obtain ⟨d, memd, about, creating⟩ := exists_of_mem_objectNames describes derives served mem
    exact ⟨d, memd, about, d.head, creating, Definition.namedBehind_of_object? about⟩

/-- The people have an index that needs an extension: it is listed without it, and created with it. -/
theorem objectNames_exact_person :
    let b : Blueprint := { documents := true }
    let served : Blueprint := { b with extensions := ["pg_trgm"] }
    ∃ ds ds', Inventory.person.definitions b = .ok ds ∧ Inventory.person.definitions served = .ok ds' ∧
      Definition.GainsIndexes ds ds' ∧ "person_surname_trgm" ∈ Inventory.person.objectNames b ∧
      ∃ d ∈ ds', d.object? = some "person_surname_trgm" ∧ ∃ head ∈ objectHeads,
        NamedBehind head "person_surname_trgm" d.sql ∧
        ∃ n ∈ Inventory.person.objectNames served, d.object? = some n ∧ NamedBehind head n d.sql := by
  intro b served
  have listed : "person_surname_trgm" ∈ Inventory.person.objectNames b := by decide
  have requires : ∀ i ∈ Inventory.person.indexes, ∀ e, i.requires = some e → e ∈ served.extensions := by
    have each : ∀ i ∈ Inventory.person.indexes, i.requires.all (· ∈ served.extensions) := by decide
    exact fun i mem e eq => of_decide_eq_true ((Option.all_eq_true _ _).1 (each i mem) e eq)
  obtain ⟨ds, describes⟩ := Inventory.exists_definitions (t := Inventory.person) (by decide) b
  obtain ⟨-, -, more⟩ := objectNames_exact Inventory.person b
  obtain ⟨same, -, extended⟩ := more ["pg_trgm"] (List.nil_subset _)
  obtain ⟨ds', describes', gains⟩ := extended ds describes
  obtain ⟨-, exact, -⟩ := objectNames_exact Inventory.person served
  obtain ⟨names, all⟩ := exact ds' describes'
  obtain ⟨d, mem, about, head, creating, named⟩ := all rfl (by decide) requires _ (same ▸ listed)
  have about' : head ∈ objectHeads := by
    have each : ∀ head ∈ creatingHeads, head ∈ objectHeads := by decide
    exact each head creating
  exact ⟨ds, ds', describes, describes', gains, listed, d, mem, about, head, about', named,
    names d mem head about' named.prefix_head⟩

end Table
end Tenancy.Schema
