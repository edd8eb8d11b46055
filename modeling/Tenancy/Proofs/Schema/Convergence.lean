import Mathlib.Data.List.Nodup
import Mathlib.Logic.Function.Basic
import Tenancy.Proofs.Schema.Composition

/-!
# What the definitions of a table lead to

`Definition.run` is what a definition does to the objects of a schema, and when it fails. Whatever part of
a described table is there before (`Table.Begun`), its definitions run without a failure and leave it as
it is described (`Table.Finished`); run again, they change nothing. `definitions_converge` puts this
together from the four groups of definitions: the creation of the table, its missing columns, the function
with its trigger, and the indexes. Each group is a lemma of its own that gives the objects after it.
-/

namespace Tenancy.Schema

/-! ## What definitions do -/

/-- The names among columns. -/
def columnNames (columns : List (String × String)) : List String := columns.map Prod.fst

/-- The objects of a schema, by their names. -/
@[ext]
structure Objects where
  /-- The columns of each table, with their types. -/
  tables : String → Option (List (String × String))
  /-- What each function assigns to which columns. -/
  functions : String → Option (List (String × String))
  /-- Whether there is a trigger of a name on a table. -/
  triggers : String × String → Bool
  indexes : String → Option BuiltIndex

/-- What a definition does to the objects of a schema; nothing if it fails. It fails where a table or a
function is missing that it needs, where a trigger is there already or is about a column that is not, and
where a table would have two columns of one name. -/
def Definition.run (o : Objects) : Definition → Option Objects
  | .createTable table columns _ =>
    if (o.tables table).isSome then some o
    else if (columnNames columns).Nodup then
      some { o with tables := Function.update o.tables table (some columns) }
    else none
  | .addColumn table column type => do
    let columns ← o.tables table
    if column ∈ columnNames columns then some o
    else some { o with
      tables := Function.update o.tables table (some (columns ++ [(column, type)])) }
  | .createFunction name assignments =>
    some { o with functions := Function.update o.functions name (some assignments) }
  | .dropTrigger name table => do
    let _ ← o.tables table
    some { o with triggers := Function.update o.triggers (name, table) false }
  | .createTrigger name table => do
    let columns ← o.tables table
    let _ ← o.functions name
    if documentColumn ∈ columnNames columns ∧ o.triggers (name, table) = false then
      some { o with triggers := Function.update o.triggers (name, table) true }
    else none
  | .createIndex name table method elements => do
    let _ ← o.tables table
    if (o.indexes name).isSome then some o
    else some { o with
      indexes := Function.update o.indexes name (some ⟨table, method, elements⟩) }

/-- Runs definitions one after the other, up to the first that fails. -/
def runAll : List Definition → Objects → Option Objects
  | [], o => some o
  | d :: ds, o => (d.run o).bind (runAll ds)

/-- Definitions are run one after the other. -/
lemma runAll_append (ds es : List Definition) (o : Objects) :
    runAll (ds ++ es) o = (runAll ds o).bind (runAll es) := by
  induction ds generalizing o with
  | nil => rfl
  | cons d ds ih =>
    rw [List.cons_append, runAll, runAll, Option.bind_assoc]
    congr
    funext o'
    exact ih o'

/-! ## What is described -/

namespace Table

/-- Some part of a described table is there: nothing, or the table with some of its columns, among them
those that it has without documents, and any of its objects, the indexes being as they are described. -/
structure Begun (t : Table) (b : Blueprint) (o : Objects) : Prop where
  table : ∀ cs, o.tables t.name = some cs →
    (columnNames cs).Nodup ∧ cs ⊆ t.columns b ∧ t.columns { b with documents := false } ⊆ cs
  indexes : ∀ d ∈ t.builtIndexes b, ∀ x, o.indexes d.1 = some x → x = d.2

/-- A table is as it is described, and apart from what is described the objects `o` are left as they
were. -/
structure Finished (t : Table) (b : Blueprint) (o o' : Objects) : Prop where
  columns : ∃ cs, o'.tables t.name = some cs ∧ cs.Perm (t.columns b)
  created : o.tables t.name = none → o'.tables t.name = some (t.columns b)
  function : b.derives t → ∃ assignments, t.Assigns assignments ∧
    o'.functions (b.objectName t "sync") = some assignments
  trigger : b.derives t → o'.triggers (b.objectName t "sync", t.name) = true
  indexes : ∀ d ∈ t.builtIndexes b, o'.indexes d.1 = some d.2
  otherTables : ∀ n, n ≠ t.name → o'.tables n = o.tables n
  otherFunctions : ∀ n, ¬ (b.derives t ∧ n = b.objectName t "sync") → o'.functions n = o.functions n
  otherTriggers : ∀ n, ¬ (b.derives t ∧ n = (b.objectName t "sync", t.name)) →
    o'.triggers n = o.triggers n
  otherIndexes : ∀ n, (∀ d ∈ t.builtIndexes b, n ≠ d.1) → o'.indexes n = o.indexes n

variable {t : Table} {b : Blueprint} {o : Objects}

/-! ## The table and its columns -/

/-- The columns of a table when it was created, unless it was there. -/
def columnsCreated (t : Table) (b : Blueprint) (o : Objects) : List (String × String) :=
  (o.tables t.name).getD (t.columns b)

/-- The columns of a table when those were added that were missing. -/
def columnsAdded (t : Table) (b : Blueprint) (o : Objects) : List (String × String) :=
  t.columnsCreated b o ++
    (t.documentColumns b).filter fun c => c.1 ∉ columnNames (t.columnsCreated b o)

/-- Nothing is added to a table that has all columns. -/
lemma columnsAdded_eq_columnsCreated
    (all : ∀ c ∈ t.documentColumns b, c.1 ∈ columnNames (t.columnsCreated b o)) :
    t.columnsAdded b o = t.columnsCreated b o := by
  have missing : (t.documentColumns b).filter (fun c => c.1 ∉ columnNames (t.columnsCreated b o)) = [] :=
    List.filter_eq_nil_iff.2 fun c mem absent => of_decide_eq_true absent (all c mem)
  rw [columnsAdded, missing, List.append_nil]

/-- A table is created with its columns, or left with those that it has. -/
lemma run_creation (distinct : (columnNames (t.columns b)).Nodup) :
    (t.creation b).run o =
      some { o with tables := Function.update o.tables t.name (some (t.columnsCreated b o)) } := by
  rw [creation_eq, Definition.run, columnsCreated]
  cases there : o.tables t.name with
  | none => simp [distinct]
  | some cs =>
    have same : Function.update o.tables t.name (some cs) = o.tables := by
      rw [← there, Function.update_eq_self]
    simp [same]

end Table

/-- Columns are added that are not there, in order. -/
lemma runAll_addColumns {o : Objects} {table : String} {columns cs : List (String × String)}
    (there : o.tables table = some cs) (distinct : (columnNames columns).Nodup) :
    runAll (columns.map fun c => .addColumn table c.1 c.2) o =
      some { o with
        tables := Function.update o.tables table
          (some (cs ++ columns.filter (fun c => c.1 ∉ columnNames cs))) } := by
  induction columns generalizing o cs with
  | nil =>
    have same : Function.update o.tables table (some cs) = o.tables := by
      rw [← there, Function.update_eq_self]
    simp [runAll, same]
  | cons c columns ih =>
    obtain ⟨absent, distinct⟩ := List.nodup_cons.1 distinct
    rw [List.map_cons, runAll, Definition.run, there, Option.bind_eq_bind, Option.bind_some]
    by_cases mem : c.1 ∈ columnNames cs
    · rw [if_pos mem, Option.bind_some, ih there distinct, List.filter_cons_of_neg (by simpa using mem)]
    · rw [if_neg mem, Option.bind_some, ih (Function.update_self ..) distinct,
        List.filter_cons_of_pos (by simpa using mem), Function.update_idem]
      -- The column that was added is none of those that follow.
      have rest : (columns.filter fun d => d.1 ∉ columnNames (cs ++ [c])) =
          columns.filter fun d => d.1 ∉ columnNames cs := by
        refine List.filter_congr fun d memd => decide_eq_decide.2 (not_congr ?_)
        have other : d.1 ≠ c.1 := fun eq => absent (eq ▸ List.mem_map_of_mem memd)
        simp only [columnNames, List.map_append, List.map_singleton, List.mem_append,
          List.mem_singleton, other, or_false]
      rw [rest, List.append_assoc, List.singleton_append]

/-- An index is built if its name is free. -/
lemma run_createIndex {o : Objects} {name : String} {x : BuiltIndex}
    (there : (o.tables x.table).isSome) :
    (Definition.createIndex name x.table x.method x.elements).run o =
      some { o with
        indexes := Function.update o.indexes name ((o.indexes name).or (some x)) } := by
  obtain ⟨cs, table⟩ := Option.isSome_iff_exists.1 there
  rw [Definition.run, table, Option.bind_eq_bind, Option.bind_some]
  cases found : o.indexes name with
  | none => rfl
  | some y =>
    have same : Function.update o.indexes name (some y) = o.indexes := by
      rw [← found, Function.update_eq_self]
    rw [Option.some_or, same]
    rfl

/-- Indexes are built whose names are free. -/
lemma runAll_createIndexes {o : Objects} {indexes : List (String × BuiltIndex)}
    (there : ∀ d ∈ indexes, (o.tables d.2.table).isSome) :
    runAll (indexes.map fun d => .createIndex d.1 d.2.table d.2.method d.2.elements) o =
      some { o with indexes := fun n => (o.indexes n).or (indexes.lookup n) } := by
  induction indexes generalizing o with
  | nil => simp [runAll]
  | cons d indexes ih =>
    obtain ⟨head, tail⟩ := List.forall_mem_cons.1 there
    rw [List.map_cons, runAll, run_createIndex head, Option.bind_some]
    refine (ih (o := { o with indexes := Function.update o.indexes d.1 _ }) tail).trans ?_
    congr
    funext n
    dsimp only
    by_cases same : n = d.1
    · rw [same, Function.update_self, List.lookup_cons_self, Option.or_assoc, Option.some_or]
    · rw [Function.update_of_ne same, List.lookup_cons, beq_false_of_ne same]

/-- A value is found under its key, where no two keys are the same. -/
lemma lookup_eq_some {α : Type} {entries : List (String × α)} (distinct : (entries.map Prod.fst).Nodup)
    {d : String × α} (mem : d ∈ entries) : entries.lookup d.1 = some d.2 := by
  induction entries with
  | nil => cases mem
  | cons e entries ih =>
    obtain ⟨absent, distinct⟩ := List.nodup_cons.1 distinct
    rcases List.mem_cons.1 mem with rfl | mem
    · exact List.lookup_cons_self
    · have other : d.1 ≠ e.1 := fun same => absent (same ▸ List.mem_map_of_mem mem)
      rw [List.lookup_cons, beq_false_of_ne other]
      exact ih distinct mem

namespace Table
variable {t : Table} {b : Blueprint} {o : Objects}

/-! ## Columns -/

section Columns
variable (distinct : (columnNames (t.columns b)).Nodup)
include distinct

/-- Of two columns with one name there is only one. -/
lemma column_unique {c d : String × String} (hc : c ∈ t.columns b) (hd : d ∈ t.columns b)
    (same : c.1 = d.1) : c = d := List.inj_on_of_nodup_map distinct hc hd same

/-- The columns for documents have names of their own. -/
lemma nodup_documentColumns : (columnNames (t.documentColumns b)).Nodup := by
  refine distinct.sublist (List.Sublist.map _ ?_)
  unfold documentColumns columns isRecord derived
  cases t.layout with
  | record key derived =>
    cases b.documents with
    | false => simp
    | true =>
      refine List.Sublist.cons _ (List.Sublist.cons_cons _ ?_)
      exact List.Sublist.cons _ (List.Sublist.cons _ (List.Sublist.refl _))
  | plain columns primaryKey => simp

variable (begun : t.Begun b o)
include begun

/-- What the columns of a table are known to be when it was created, unless it was there. -/
lemma columnsCreated_spec :
    (columnNames (t.columnsCreated b o)).Nodup ∧ t.columnsCreated b o ⊆ t.columns b ∧
      t.columns { b with documents := false } ⊆ t.columnsCreated b o := by
  unfold columnsCreated
  cases there : o.tables t.name with
  | none => exact ⟨distinct, List.Subset.refl _, fun c mem => (t.mem_columns b c).2 (.inl mem)⟩
  | some cs => exact begun.table cs there

/-- So have those of a table to which missing ones were added. -/
lemma nodup_columnsAdded : (columnNames (t.columnsAdded b o)).Nodup := by
  obtain ⟨nodup, -, -⟩ := columnsCreated_spec distinct begun
  unfold columnsAdded columnNames
  rw [List.map_append, List.nodup_append']
  refine ⟨nodup, (nodup_documentColumns distinct).sublist (List.filter_sublist.map _), ?_⟩
  intro name created added
  obtain ⟨c, mem, rfl⟩ := List.mem_map.1 added
  have absent := (List.mem_filter.1 mem).2
  exact of_decide_eq_true absent created

/-- In the end a table has the columns that it is described with. -/
lemma mem_columnsAdded (c : String × String) : c ∈ t.columnsAdded b o ↔ c ∈ t.columns b := by
  obtain ⟨-, sub, base⟩ := columnsCreated_spec distinct begun
  rw [columnsAdded, List.mem_append, List.mem_filter]
  constructor
  · rintro (mem | ⟨mem, -⟩)
    · exact sub mem
    · exact (t.mem_columns b c).2 (.inr mem)
  · intro mem
    rcases (t.mem_columns b c).1 mem with plain | document
    · exact .inl (base plain)
    · by_cases there : c.1 ∈ columnNames (t.columnsCreated b o)
      · obtain ⟨d, memd, same⟩ := List.mem_map.1 there
        rw [column_unique distinct mem (sub memd) same.symm]
        exact .inl memd
      · exact .inr ⟨document, decide_eq_true there⟩

/-- They are the columns of the table, in some order. -/
lemma perm_columnsAdded : (t.columnsAdded b o).Perm (t.columns b) :=
  (List.perm_ext_iff_of_nodup (.of_map _ (nodup_columnsAdded distinct begun)) (.of_map _ distinct)).2
    (mem_columnsAdded distinct begun)

end Columns

/-! ## Indexes -/

section Indexes
variable (distinct : (t.objectNames b).Nodup)
include distinct

/-- The indices have names of their own. -/
lemma nodup_builtIndexes : ((t.builtIndexes b).map Prod.fst).Nodup := by
  have known : ([b.objectName t "json_gin"] ++
      (t.derived.map (fun c => b.objectName t s!"{c.name}_idx") ++
        (t.indexes.filter (t.builds b)).map fun i => b.objectName t i.suffix)).Nodup := by
    refine distinct.sublist ?_
    unfold objectNames
    rw [List.append_assoc]
    refine List.Sublist.cons _ (List.Sublist.append (List.Sublist.refl _) ?_)
    exact (List.Sublist.refl _).append (List.filter_sublist.map _)
  unfold builtIndexes
  rw [List.map_append, List.map_map]
  split
  · rw [List.map_append, List.map_map, List.append_assoc]
    refine known.perm ?_
    rw [← List.append_assoc, ← List.append_assoc]
    exact List.perm_append_comm.append_right _
  · rw [List.map_nil, List.nil_append]
    exact (known.sublist (List.sublist_append_right _ _)).sublist (List.sublist_append_right _ _)

/-- Each index is found under its name. -/
lemma lookup_builtIndexes {d : String × BuiltIndex} (mem : d ∈ t.builtIndexes b) :
    (t.builtIndexes b).lookup d.1 = some d.2 :=
  lookup_eq_some (nodup_builtIndexes distinct) mem

end Indexes

/-! ## The function and its trigger -/

/-- A table that derives columns has the column of the documents. -/
lemma documentColumn_mem (derives : b.derives t) : (documentColumn, "JSONB") ∈ t.columns b := by
  obtain ⟨documents, some⟩ := Bool.and_eq_true_iff.1 derives
  unfold derived at some
  unfold columns
  cases eq : t.layout with
  | record key derived =>
    rw [documents]
    exact .tail _ (.head _)
  | plain columns primaryKey =>
    rw [eq] at some
    cases some

/-- The function is replaced, and the trigger made anew. -/
lemma runAll_syncDefinitions {cs : List (String × String)} (there : o.tables t.name = some cs)
    (document : b.derives t → documentColumn ∈ columnNames cs)
    (assignments : List (String × String)) :
    runAll (t.syncDefinitions b assignments) o = some { o with
      functions := if b.derives t then
        Function.update o.functions (b.objectName t "sync") (some assignments) else o.functions
      triggers := if b.derives t then
        Function.update o.triggers (b.objectName t "sync", t.name) true else o.triggers } := by
  unfold syncDefinitions
  by_cases derives : b.derives t
  · simp [derives, syncTrigger, runAll, Definition.run, there, document derives]
  · simp [derives, runAll]

/-! ## All definitions of a table -/

/-- The objects of a schema when the definitions of a table were run. -/
def built (t : Table) (b : Blueprint) (assignments : List (String × String)) (o : Objects) : Objects where
  tables := Function.update o.tables t.name (some (t.columnsAdded b o))
  functions := if b.derives t then
    Function.update o.functions (b.objectName t "sync") (some assignments) else o.functions
  triggers := if b.derives t then
    Function.update o.triggers (b.objectName t "sync", t.name) true else o.triggers
  indexes := fun n => (o.indexes n).or ((t.builtIndexes b).lookup n)

/-- The table has its columns then. -/
lemma built_tables (assignments : List (String × String)) :
    (t.built b assignments o).tables t.name = some (t.columnsAdded b o) := Function.update_self ..

/-- An index is the one that was there, or the one that was built. -/
lemma built_indexes (assignments : List (String × String)) (n : String) :
    (t.built b assignments o).indexes n = (o.indexes n).or ((t.builtIndexes b).lookup n) := rfl

/-- Building again what was built changes nothing. -/
lemma built_built (assignments : List (String × String)) :
    t.built b assignments (t.built b assignments o) = t.built b assignments o := by
  have created : t.columnsCreated b (t.built b assignments o) = t.columnsAdded b o := by
    rw [columnsCreated, built_tables, Option.getD_some]
  have added : t.columnsAdded b (t.built b assignments o) = t.columnsAdded b o := by
    rw [columnsAdded_eq_columnsCreated, created]
    intro c mem
    rw [created, columnsAdded, columnNames, List.map_append, List.mem_append]
    by_cases there : c.1 ∈ columnNames (t.columnsCreated b o)
    · exact .inl there
    · exact .inr (List.mem_map_of_mem (List.mem_filter.2 ⟨mem, decide_eq_true there⟩))
  ext1
  · change Function.update (Function.update o.tables t.name (some (t.columnsAdded b o))) t.name
      (some (t.columnsAdded b (t.built b assignments o))) = _
    rw [added, Function.update_idem]
    rfl
  · unfold built
    split
    · exact Function.update_idem ..
    · rfl
  · unfold built
    split
    · exact Function.update_idem ..
    · rfl
  · funext n
    rw [built_indexes, built_indexes, Option.or_assoc, Option.or_self]

/-- What is finished is itself begun. -/
lemma Finished.isBegun {o' : Objects} (columns : (columnNames (t.columns b)).Nodup)
    (finished : t.Finished b o o') : t.Begun b o' where
  table := by
    obtain ⟨cs, there, perm⟩ := finished.columns
    intro cs' there'
    obtain rfl : cs = cs' := Option.some.inj (there.symm.trans there')
    exact ⟨(perm.map Prod.fst).nodup_iff.2 columns, perm.subset,
      fun c mem => perm.mem_iff.2 ((t.mem_columns b c).2 (.inl mem))⟩
  indexes := fun d mem x found => Option.some.inj (found.symm.trans (finished.indexes d mem))

section All
variable (columns : (columnNames (t.columns b)).Nodup) (objects : (t.objectNames b).Nodup)
  (begun : t.Begun b o)

include columns in
/-- The table is created, unless it is there, and gets the columns that are missing. -/
lemma runAll_columns :
    runAll (t.creation b :: t.missingColumns b) o =
      some { o with tables := Function.update o.tables t.name (some (t.columnsAdded b o)) } := by
  rw [runAll, run_creation columns, Option.bind_some, missingColumns_eq,
    runAll_addColumns (Function.update_self ..) (nodup_documentColumns columns), Function.update_idem]
  rfl

/-- Each index is built on the table itself. -/
lemma runAll_indexDefinitions {cs : List (String × String)} (there : o.tables t.name = some cs) :
    runAll (t.indexDefinitions b) o =
      some { o with indexes := fun n => (o.indexes n).or ((t.builtIndexes b).lookup n) } := by
  rw [indexDefinitions_eq, runAll_createIndexes fun d mem => ?_]
  rw [t.table_of_mem_builtIndexes b d mem, there]
  rfl

include columns begun in
/-- The definitions of a table run without a failure. -/
lemma runAll_definitions (assignments : List (String × String)) :
    runAll (t.creation b :: t.missingColumns b ++ t.syncDefinitions b assignments ++
      t.indexDefinitions b) o = some (t.built b assignments o) := by
  have document : b.derives t → documentColumn ∈ columnNames (t.columnsAdded b o) := fun derives =>
    List.mem_map_of_mem ((mem_columnsAdded columns begun _).2 (documentColumn_mem derives))
  rw [runAll_append, runAll_append, runAll_columns columns, Option.bind_some,
    runAll_syncDefinitions (Function.update_self ..) document, Option.bind_some,
    runAll_indexDefinitions (Function.update_self ..)]
  rfl

include columns begun objects in
/-- What is built on what was begun is as described. -/
lemma finished_built {assignments : List (String × String)}
    (assigns : b.derives t → t.Assigns assignments) : t.Finished b o (t.built b assignments o) where
  columns := ⟨t.columnsAdded b o, Function.update_self .., perm_columnsAdded columns begun⟩
  created := fun absent => by
    have created : t.columnsCreated b o = t.columns b := by
      rw [columnsCreated, absent, Option.getD_none]
    rw [built_tables, columnsAdded_eq_columnsCreated, created]
    intro c mem
    rw [created]
    exact List.mem_map_of_mem ((t.mem_columns b c).2 (.inr mem))
  function := fun derives => ⟨assignments, assigns derives, by simp [built, derives]⟩
  trigger := fun derives => by simp [built, derives]
  indexes := fun d mem => by
    rw [built_indexes, lookup_builtIndexes objects mem]
    cases found : o.indexes d.1 with
    | none => rfl
    | some x => rw [begun.indexes d mem x found, Option.some_or]
  otherTables := fun n other => Function.update_of_ne other ..
  otherFunctions := fun n other => by
    unfold built
    split
    · next derives => exact Function.update_of_ne (fun same => other ⟨derives, same⟩) ..
    · rfl
  otherTriggers := fun n other => by
    unfold built
    split
    · next derives => exact Function.update_of_ne (fun same => other ⟨derives, same⟩) ..
    · rfl
  otherIndexes := fun n other => by
    have absent : (t.builtIndexes b).lookup n = none :=
      List.lookup_eq_none_iff.2 fun d mem => bne_iff_ne.2 (other d mem)
    rw [built_indexes, absent, Option.or_none]

/-- The definitions of a table finish whatever part of it was begun, and when they are run again they change
nothing. A table has them if the paths of its derived columns can be read. -/
theorem definitions_converge (columns : (columnNames (t.columns b)).Nodup)
    (objects : (t.objectNames b).Nodup) (begun : t.Begun b o) :
    ((∃ ds, t.definitions b = .ok ds) ↔
      (b.derives t → ∀ c ∈ t.derived, ∃ path, Path.parse c.path = .ok path)) ∧
    ∀ ds, t.definitions b = .ok ds →
      ∃ o', runAll ds o = some o' ∧ t.Finished b o o' ∧ runAll ds o' = some o' := by
  refine ⟨exists_definitions_iff, fun ds describes => ?_⟩
  obtain ⟨assignments, assigns, rfl⟩ := eq_of_definitions describes
  have finished := finished_built columns objects begun assigns
  refine ⟨_, runAll_definitions columns begun assignments, finished, ?_⟩
  rw [runAll_definitions columns (finished.isBegun columns) assignments, built_built]

end All

/-- The objects of a schema in which an upgrade of the families stopped halfway. -/
def familyHalfway : Objects where
  tables := Function.update (fun _ => none) "family" (some
    [("handle", "TEXT NOT NULL"), (bytesColumn, "BYTEA"),
      (changeColumn, "TIMESTAMPTZ NOT NULL DEFAULT now()"), ("father_handle", "TEXT")])
  functions := fun _ => none
  triggers := fun n => n = ("family_sync", "family")
  indexes := Function.update (fun _ => none) "family_json_gin"
    (some ⟨"family", .gin, "json_data jsonb_path_ops"⟩)

/-- The families of such a schema are brought to their shape. -/
theorem family_converges_from_halfway :
    (columnNames (Inventory.family.columns { documents := true })).Nodup ∧
    (Inventory.family.objectNames { documents := true }).Nodup ∧
    Inventory.family.Begun { documents := true } familyHalfway ∧
    ∃ ds, Inventory.family.definitions { documents := true } = .ok ds ∧
      ∃ o, runAll ds familyHalfway = some o ∧
        Inventory.family.Finished { documents := true } familyHalfway o ∧ runAll ds o = some o := by
  have columns : (columnNames (Inventory.family.columns { documents := true })).Nodup := by decide
  have objects : (Inventory.family.objectNames { documents := true }).Nodup := by decide
  have begun : Inventory.family.Begun { documents := true } familyHalfway := by
    constructor
    · rintro cs ⟨⟩
      decide
    · have check : ∀ d ∈ Inventory.family.builtIndexes { documents := true },
          (familyHalfway.indexes d.1).all (· = d.2) := by
        decide
      intro d mem x found
      have same := check d mem
      rw [found] at same
      exact of_decide_eq_true same
  obtain ⟨ds, describes⟩ := Inventory.exists_definitions (t := Inventory.family) (by decide)
    { documents := true }
  exact ⟨columns, objects, begun, ds, describes,
    (definitions_converge columns objects begun).2 ds describes⟩

end Table
end Tenancy.Schema
