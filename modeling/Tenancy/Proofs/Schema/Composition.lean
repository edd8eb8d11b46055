import Mathlib.Data.List.Forall2
import Mathlib.Tactic.Lemma
import Tenancy.Schema.Definition
import Tenancy.Schema.Inventory

/-!
# What the definitions of a table are

The definitions of a table come in four groups (`Table.eq_of_definitions`): the creation of the table with
its `columns`, those columns among them that it may lack, the function with its trigger, and the indexes.
They are there if the paths of the derived columns can be read (`Table.exists_definitions_iff`), as they can
for every table of the inventory.
-/

namespace Tenancy.Schema

/-! ## Actions on the elements of a list -/

section Each
variable {ε α β : Type} {f : α → Except ε β} {l : List α}

/-- All results are there exactly if each of them is. -/
lemma mapM_eq_ok_iff {results : List β} :
    l.mapM f = .ok results ↔ List.Forall₂ (fun x y => f x = .ok y) l results := by
  induction l generalizing results with
  | nil =>
    rw [List.forall₂_nil_left_iff]
    exact ⟨fun h => by cases h; rfl, fun h => by rw [h]; rfl⟩
  | cons x l ih =>
    rw [List.mapM_cons, List.forall₂_cons_left_iff]
    constructor
    · intro h
      rcases first : f x with e | y
      · rw [first] at h
        cases h
      rcases rest : l.mapM f with e | ys
      · rw [first, rest] at h
        cases h
      rw [first, rest] at h
      cases h
      exact ⟨y, ys, rfl, ih.1 rest, rfl⟩
    · rintro ⟨y, ys, first, rest, rfl⟩
      rw [first, ih.2 rest]
      rfl

/-- What an action makes of the elements of a list comes from the elements. -/
lemma exists_of_mapM {results : List β} (h : l.mapM f = .ok results) :
    ∀ y ∈ results, ∃ x ∈ l, f x = .ok y := by
  induction mapM_eq_ok_iff.1 h with
  | nil => simp
  | cons first rest ih =>
    refine List.forall_mem_cons.2 ⟨⟨_, List.mem_cons_self, first⟩, fun y mem => ?_⟩
    obtain ⟨x, memx, eq⟩ := ih (mapM_eq_ok_iff.2 rest) y mem
    exact ⟨x, List.mem_cons_of_mem _ memx, eq⟩

/-- An action succeeds on a list if it does on each element. -/
lemma exists_mapM_iff : (∃ results, l.mapM f = .ok results) ↔ ∀ x ∈ l, ∃ y, f x = .ok y := by
  induction l with
  | nil => exact ⟨fun _ => by simp, fun _ => ⟨[], rfl⟩⟩
  | cons x l ih =>
    rw [List.forall_mem_cons, ← ih]
    constructor
    · rintro ⟨results, h⟩
      obtain ⟨y, ys, first, rest, -⟩ := List.forall₂_cons_left_iff.1 (mapM_eq_ok_iff.1 h)
      exact ⟨⟨y, first⟩, ys, mapM_eq_ok_iff.2 rest⟩
    · rintro ⟨⟨y, first⟩, ys, rest⟩
      exact ⟨y :: ys, mapM_eq_ok_iff.2 (.cons first (mapM_eq_ok_iff.1 rest))⟩

end Each

/-! ## What is described -/

/-- An index of a schema. -/
structure BuiltIndex where
  table : String
  method : IndexMethod
  elements : String
  deriving DecidableEq, Repr

namespace Table

/-- The columns that a table has by its description. -/
def columns (t : Table) (b : Blueprint) : List (String × String) :=
  match t.layout with
  | .record key derived =>
    (key, "TEXT NOT NULL") ::
      ((if b.documents then [(documentColumn, "JSONB")] else []) ++
        (bytesColumn, "BYTEA") :: (changeColumn, "TIMESTAMPTZ NOT NULL DEFAULT now()") ::
          if b.documents then derived.map fun c => (c.name, c.type.name) else [])
  | .plain columns _ => columns

/-- The columns that are there only with documents. -/
def documentColumns (t : Table) (b : Blueprint) : List (String × String) :=
  if b.documents && t.isRecord then
    (documentColumn, "JSONB") :: t.derived.map fun c => (c.name, c.type.name)
  else []

/-- The indexes that are described and can be built, with their names. -/
def builtIndexes (t : Table) (b : Blueprint) : List (String × BuiltIndex) :=
  (if b.derives t then
    t.derived.map (fun c => (b.objectName t s!"{c.name}_idx", ⟨t.name, .btree, c.name⟩)) ++
      [(b.objectName t "json_gin", ⟨t.name, .gin, s!"{documentColumn} jsonb_path_ops"⟩)]
  else []) ++
    (t.indexes.filter (t.builds b)).map fun i =>
      (b.objectName t i.suffix, ⟨t.name, i.method, i.elements⟩)

/-- The columns of the key of a table. -/
def primaryKey (t : Table) : List String :=
  match t.layout with
  | .record key _ => [key]
  | .plain _ primaryKey => primaryKey

/-- The creation of a table has all its columns. -/
lemma creation_eq (t : Table) (b : Blueprint) :
    t.creation b = .createTable t.name (t.columns b) t.primaryKey := by
  unfold creation columns primaryKey
  cases t.layout with
  | record key derived =>
    cases b.documents with
    | false => rfl
    | true => rfl
  | plain columns primaryKey => rfl

/-- The columns for documents are added one by one. -/
lemma missingColumns_eq (t : Table) (b : Blueprint) :
    t.missingColumns b = (t.documentColumns b).map fun c => .addColumn t.name c.1 c.2 := by
  unfold missingColumns documentColumns
  split
  · simp
  · rfl

/-- The indices are created one by one. -/
lemma indexDefinitions_eq (t : Table) (b : Blueprint) :
    t.indexDefinitions b = (t.builtIndexes b).map fun d =>
      .createIndex d.1 d.2.table d.2.method d.2.elements := by
  unfold indexDefinitions coveringIndexes builtIndexes
  split
  · simp [Function.comp_def]
  · simp [Function.comp_def]

/-- All indexes are on the table itself. -/
lemma table_of_mem_builtIndexes (t : Table) (b : Blueprint) :
    ∀ d ∈ t.builtIndexes b, d.2.table = t.name := by
  intro d mem
  unfold builtIndexes at mem
  rcases List.mem_append.1 mem with mem | mem
  · split at mem
    · rcases List.mem_append.1 mem with mem | mem
      · obtain ⟨c, -, rfl⟩ := List.mem_map.1 mem
        rfl
      · rw [List.mem_singleton.1 mem]
    · cases mem
  · obtain ⟨i, -, rfl⟩ := List.mem_map.1 mem
    rfl

/-- A column is there with documents only, or it is there without them too. -/
lemma mem_columns (t : Table) (b : Blueprint) (c : String × String) :
    c ∈ t.columns b ↔ c ∈ t.columns { b with documents := false } ∨ c ∈ t.documentColumns b := by
  unfold columns documentColumns isRecord derived
  cases t.layout with
  | record key derived =>
    cases b.documents with
    | false => simp
    | true =>
      simp only [Bool.true_and, List.mem_cons, List.mem_append, List.mem_map, List.not_mem_nil,
        if_true, if_false, Bool.false_eq_true, or_false, false_or]
      tauto
  | plain columns primaryKey => simp

end Table

/-! ## The groups of definitions -/

/-- The computation of a derived column can be written if its path can be read. -/
lemma DerivedColumn.exists_expression_iff (c : DerivedColumn) (source : String) :
    (∃ value, c.expression source = .ok value) ↔ ∃ path, Path.parse c.path = .ok path := by
  unfold expression
  rcases Path.parse c.path with failure | path
  · exact ⟨fun ⟨_, h⟩ => (nomatch h), fun ⟨_, h⟩ => (nomatch h)⟩
  · exact ⟨fun _ => ⟨path, rfl⟩, fun _ => ⟨_, rfl⟩⟩

namespace Table
variable {t : Table} {b : Blueprint}

/-- Whether assignments give each derived column, in order, what is computed for it. -/
def Assigns (t : Table) (assignments : List (String × String)) : Prop :=
  List.Forall₂ (fun c a => a.1 = c.name ∧ c.expression s!"NEW.{documentColumn}" = .ok a.2)
    t.derived assignments

/-- The function with its trigger, if columns are derived. -/
def syncDefinitions (t : Table) (b : Blueprint) (assignments : List (String × String)) :
    List Definition :=
  if b.derives t then .createFunction (b.objectName t "sync") assignments :: t.syncTrigger b else []

/-- The assignment to a derived column. -/
def assignment (c : DerivedColumn) : Except Failure (String × String) := do
  return (c.name, ← c.expression s!"NEW.{documentColumn}")

/-- An assignment is the expression of the column, if there is one. -/
lemma assignment_eq_ok_iff {c : DerivedColumn} {a : String × String} :
    assignment c = .ok a ↔ a.1 = c.name ∧ c.expression s!"NEW.{documentColumn}" = .ok a.2 := by
  unfold assignment
  rcases c.expression s!"NEW.{documentColumn}" with failure | value
  · exact ⟨(nomatch ·), fun h => (nomatch h.2)⟩
  · constructor
    · rintro ⟨⟩
      exact ⟨rfl, rfl⟩
    · rintro ⟨name, ⟨⟩⟩
      rw [← name]
      rfl

/-- The assignments to the derived columns. -/
def assignments (t : Table) (b : Blueprint) : Except Failure (List (String × String)) :=
  if b.derives t then t.derived.mapM assignment else .ok []

/-- The definitions of a table come in four groups, of which the third needs the assignments. -/
lemma definitions_eq (t : Table) (b : Blueprint) :
    t.definitions b = (t.assignments b).map fun assignments =>
      t.creation b :: t.missingColumns b ++ t.syncDefinitions b assignments ++ t.indexDefinitions b := by
  unfold definitions syncFunction assignments syncDefinitions
  by_cases derives : b.derives t
  · rw [if_pos derives, if_pos derives]
    change ((t.derived.mapM assignment >>= fun assignments =>
      pure (some (Definition.createFunction (b.objectName t "sync") assignments))) >>= _) = _
    simp only [if_pos derives]
    rcases t.derived.mapM assignment with failure | assignments
    · rfl
    · rfl
  · simp only [if_neg derives]
    rfl

/-- What the definitions of a table are, if it has them. -/
lemma eq_of_definitions {ds : List Definition} (describes : t.definitions b = .ok ds) :
    ∃ assignments, (b.derives t → t.Assigns assignments) ∧
      ds = t.creation b :: t.missingColumns b ++ t.syncDefinitions b assignments ++
        t.indexDefinitions b := by
  rw [definitions_eq] at describes
  rcases computed : t.assignments b with failure | assignments
  · rw [computed] at describes
    cases describes
  · rw [computed] at describes
    cases describes
    refine ⟨assignments, fun derives => ?_, rfl⟩
    rw [Table.assignments, if_pos derives] at computed
    exact (mapM_eq_ok_iff.1 computed).imp fun c a => assignment_eq_ok_iff.1

/-- A table has its definitions if the paths of its derived columns can be read. -/
lemma exists_definitions_iff :
    (∃ ds, t.definitions b = .ok ds) ↔
      (b.derives t → ∀ c ∈ t.derived, ∃ path, Path.parse c.path = .ok path) := by
  have each : (∃ assignments, t.derived.mapM assignment = .ok assignments) ↔
      ∀ c ∈ t.derived, ∃ path, Path.parse c.path = .ok path := by
    rw [exists_mapM_iff]
    refine forall₂_congr fun c _ => ?_
    rw [← c.exists_expression_iff s!"NEW.{documentColumn}"]
    exact ⟨fun ⟨a, h⟩ => ⟨a.2, (assignment_eq_ok_iff.1 h).2⟩,
      fun ⟨value, h⟩ => ⟨(c.name, value), assignment_eq_ok_iff.2 ⟨rfl, h⟩⟩⟩
  have whole : (∃ ds, t.definitions b = .ok ds) ↔ ∃ assignments, t.assignments b = .ok assignments := by
    rw [definitions_eq]
    rcases t.assignments b with failure | assignments
    · exact ⟨fun ⟨_, h⟩ => (nomatch h), fun ⟨_, h⟩ => (nomatch h)⟩
    · exact ⟨fun _ => ⟨assignments, rfl⟩, fun _ => ⟨_, rfl⟩⟩
  rw [whole, ← each, assignments]
  split
  · next derives => exact ⟨fun h _ => h, fun h => h derives⟩
  · next derives => exact ⟨fun _ h => absurd h derives, fun _ => ⟨[], rfl⟩⟩

end Table

/-! ## The tables of the inventory -/

namespace Inventory

/-- Every path of a derived column can be read. -/
lemma exists_path : ∀ t ∈ tables, ∀ c ∈ t.derived, ∃ path, Path.parse c.path = .ok path := by
  have read : ∀ t ∈ tables, ∀ c ∈ t.derived, (Path.read c.path).isOk := by decide +kernel
  intro t mem c memc
  unfold Path.parse
  cases found : Path.read c.path with
  | ok path => exact ⟨path, rfl⟩
  | error fault =>
    have isOk := read t mem c memc
    rw [found] at isOk
    cases isOk

/-- Every table has its definitions. -/
lemma exists_definitions {t : Table} (mem : t ∈ tables) (b : Blueprint) :
    ∃ ds, t.definitions b = .ok ds :=
  Table.exists_definitions_iff.2 fun _ => exists_path t mem

end Inventory
end Tenancy.Schema
