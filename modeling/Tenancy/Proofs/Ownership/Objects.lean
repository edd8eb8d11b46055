import Tenancy.Proofs.Ownership.Lists
import Tenancy.Proofs.Schema.Naming
import Tenancy.Proofs.Schema.ObjectNames

/-!
# Whose objects

The indexes, the trigger and the function of a table carry a tenant's prefix by the description of the table,
and the table itself carries it by the configuration. The two agree but for tables that each tenant owns by their
description and a configuration makes common (`Configuration.Shares`). Of such a table all tenants have one, and
each of them puts objects of its own on it (`Inventory.objects_follow_iff`).
-/

namespace Tenancy
open Text

namespace Schema

/-! ## Objects -/

namespace Definition

/-- A definition with another name for its object. -/
def rename (f : String → String) : Definition → Definition
  | .createFunction name assignments => .createFunction (f name) assignments
  | .dropTrigger name table => .dropTrigger (f name) table
  | .createTrigger name table => .createTrigger (f name) table
  | .createIndex name table method elements => .createIndex (f name) table method elements
  | .createTable table columns primaryKey => .createTable table columns primaryKey
  | .addColumn table column type => .addColumn table column type

/-- When a definition is renamed, so is its object. -/
@[simp] lemma object?_rename (f : String → String) (d : Definition) :
    (d.rename f).object? = d.object?.map f := by
  cases d with
  | _ => rfl

end Definition

namespace Blueprint

/-- The schema of a tenant. -/
def under (b : Blueprint) (p : TablePrefix) : Blueprint := { b with tablePrefix := some p }

/-- The schema of a database without tenants. -/
def plain (b : Blueprint) : Blueprint := { b with tablePrefix := none }

end Blueprint

namespace Table
variable {t : Table} {b : Blueprint} {p q : TablePrefix}

/-- The functions, triggers and indexes that the definitions of a table are about. -/
def objects (t : Table) (b : Blueprint) : List String :=
  ((t.definitions b).toOption.getD []).filterMap (·.object?)

/-- What becomes of the name of an object when a tenant has the table. -/
def named (t : Table) (p : TablePrefix) (name : String) : String := if t.common then name else p.apply name

/-- Under a prefix an object is named as its table is. -/
lemma objectName_under (b : Blueprint) (t : Table) (p : TablePrefix) (suffix : String) :
    (b.under p).objectName t suffix = t.named p (b.plain.objectName t suffix) := rfl

/-- A tenant's definitions are those without tenants, with other names for the objects. -/
lemma definitions_under (t : Table) (b : Blueprint) (p : TablePrefix) :
    t.definitions (b.under p) = (t.definitions b.plain).map (List.map (·.rename (t.named p))) := by
  have sync (assignments : List (String × String)) : t.syncDefinitions (b.under p) assignments =
      (t.syncDefinitions b.plain assignments).map (·.rename (t.named p)) := by
    unfold syncDefinitions
    rw [apply_ite (List.map _)]
    rfl
  have missing : t.missingColumns b.plain =
      (t.missingColumns b.plain).map (·.rename (t.named p)) := by
    rw [missingColumns_eq, List.map_map]
    rfl
  have creation : t.creation b.plain = (t.creation b.plain).rename (t.named p) := by
    rw [creation_eq]
    rfl
  have covering : t.coveringIndexes (b.under p) =
      (t.coveringIndexes b.plain).map (·.rename (t.named p)) := by
    unfold coveringIndexes
    rw [apply_ite (List.map _), List.map_append, List.map_map]
    rfl
  have indexes : t.indexDefinitions (b.under p) =
      (t.indexDefinitions b.plain).map (·.rename (t.named p)) := by
    rw [indexDefinitions, covering, indexDefinitions, List.map_append, List.map_map]
    rfl
  rw [definitions_eq, definitions_eq]
  change (t.assignments b.plain).map _ = _
  rcases t.assignments b.plain with failure | assignments
  · rfl
  · refine congrArg Except.ok ?_
    simp only [List.map_append, List.map_cons, ← sync, ← indexes, ← missing, ← creation]
    rfl

/-- So are all objects of a table. -/
lemma objects_under (t : Table) (b : Blueprint) (p : TablePrefix) :
    t.objects (b.under p) = (t.objects b.plain).map (t.named p) := by
  unfold objects
  rw [definitions_under]
  rcases t.definitions b.plain with failure | ds
  · rfl
  · change (ds.map _).filterMap _ = (ds.filterMap _).map _
    rw [List.filterMap_map, List.map_filterMap]
    exact List.filterMap_congr fun d _ => d.object?_rename _

/-- Without a prefix the objects have plain names. -/
lemma mem_plainNames_of_mem_objects {n : String} (mem : n ∈ t.objects b.plain) : n ∈ t.plainNames := by
  refine List.mem_cons_of_mem _ ?_
  unfold objects at mem
  rcases described : t.definitions b.plain with failure | ds
  · rw [described] at mem
    cases mem
  · rw [described] at mem
    change n ∈ ds.filterMap _ at mem
    obtain ⟨d, memd, about⟩ := List.mem_filterMap.1 mem
    exact mem_objectNames_of_object? described memd about

end Table
end Schema

/-! ## Owners of tables -/

open Schema

namespace Ownership

/-- Every table of the inventory is listed by the standard. -/
lemma standard_lists : ∀ t ∈ Inventory.tables, t.name ∈ standard.own ∨ t.name ∈ standard.common := by
  decide +kernel

/-- The usual ownership tells what its own lists do. -/
lemma tells_standard : standard.Tells (· ∈ standard.own) (· ∈ standard.common) := by
  have again : ofLists standard.own standard.common = standard := by decide +kernel
  have told := tells_ofLists standard.own standard.common
  rwa [again] at told

end Ownership

namespace Configuration
variable {c : Configuration} {t : Table}

/-- Whether a configuration makes a table common that is each tenant's own by its description. -/
def Shares (c : Configuration) (t : Table) : Prop :=
  t.common = false ∧ ∃ n ∈ c.common, lowerString n = t.name
deriving Decidable

/-- A configuration lists tables as own and as common, after the standard. -/
lemma tells_ownership (c : Configuration) :
    c.ownership.Tells (fun m => m ∈ Ownership.standard.own ∨ m ∈ c.own)
      (fun m => m ∈ Ownership.standard.common ∨ m ∈ c.common) := by
  have added : c.ownership = Ownership.standard.addAll (c.own.map .own ++ c.common.map .common) := by
    rw [Ownership.addAll, List.foldl_append, List.foldl_map, List.foldl_map]
    rfl
  rw [added]
  exact (Ownership.tells_standard.addAll _).congr (by simp) (by simp)

/-- A table is each tenant's own as its description says, unless the configuration shares it. -/
lemma isOwn_ownership (mem : t ∈ Inventory.tables) :
    c.ownership.isOwn t.name ↔ t.common = false ∧ ¬ c.Shares t := by
  have lowered : lowerString t.name = t.name := Inventory.lowerString_name t mem
  have described : t.common = false ↔ t.name ∈ Ownership.standard.own := by
    have own := Inventory.isOwn_standard t mem
    rw [Ownership.isOwn, lowered] at own
    rw [← decide_eq_true_iff (p := t.name ∈ _), own, Bool.not_eq_true']
  have standard := Ownership.tells_standard
  have told := c.tells_ownership
  have shared : (∃ m, (m ∈ Ownership.standard.common ∨ m ∈ c.common) ∧ t.name = lowerString m) ↔
      t.name ∈ Ownership.standard.common ∨ ∃ n ∈ c.common, lowerString n = t.name := by
    rw [standard.mem_common]
    simp only [or_and_right, exists_or, eq_comm]
  have listed : t.name ∈ Ownership.standard.own ∨ t.name ∈ Ownership.standard.common :=
    Ownership.standard_lists t mem
  rw [Ownership.isOwn, lowered, decide_eq_true_eq, told.mem_own, told.mem_common, shared, Shares, described]
  constructor
  · rintro ⟨-, free⟩
    rw [not_or] at free
    exact ⟨listed.resolve_right free.1, fun shares => free.2 shares.2⟩
  · rintro ⟨own, free⟩
    refine ⟨⟨t.name, .inl own, lowered.symm⟩, ?_⟩
    rintro (common | shares)
    · exact standard.apart own common
    · exact free ⟨own, shares⟩

end Configuration

namespace Schema

/-! ## Objects and their tables -/

section Follows
variable (o : Ownership) (t : Table) (b : Blueprint) (p q : TablePrefix)

/-- Whether the objects of a tenant's table carry the prefix exactly if the table does. -/
def Follows : Prop :=
  t.objects (b.under p) =
    (t.objects b.plain).map fun n => if o.physical t.name p = p.apply t.name then p.apply n else n
deriving Decidable

/-- Whether two tenants have separate tables with separate objects. -/
def Separate : Prop :=
  o.physical t.name p ≠ o.physical t.name q ∧ ∀ n ∈ t.objects (b.under p), n ∉ t.objects (b.under q)
deriving Decidable

/-- Whether two tenants have one table with one set of objects. -/
def Joint : Prop :=
  o.physical t.name p = o.physical t.name q ∧ t.objects (b.under p) = t.objects (b.under q)
deriving Decidable

end Follows

namespace Inventory
variable {c : Configuration} {t : Table} {b : Blueprint} {p q : TablePrefix}

/-- A table has the prefix unless it is common or shared by the configuration. -/
lemma physical_ownership (mem : t ∈ tables) :
    c.ownership.physical t.name p =
      if t.common = false ∧ ¬ c.Shares t then p.apply t.name else t.name := by
  rw [Ownership.physical, lowerString_name t mem]
  exact if_congr (c.isOwn_ownership mem) rfl rfl

/-- A table carries the prefix if the configuration has it as each tenant's own. -/
lemma physical_eq_apply_iff (mem : t ∈ tables) :
    c.ownership.physical t.name p = p.apply t.name ↔ t.common = false ∧ ¬ c.Shares t := by
  rw [physical_ownership mem]
  split
  · next own => exact iff_of_true rfl own
  · next other => exact iff_of_false (p.apply_ne t.name).symm other

/-- An object is named like its table unless the configuration shares the table. -/
lemma named_eq_iff (mem : t ∈ tables) (n : String) :
    (t.named p n = if c.ownership.physical t.name p = p.apply t.name then p.apply n else n) ↔
      ¬ c.Shares t := by
  rw [if_congr (physical_eq_apply_iff mem) rfl rfl, Table.named]
  cases common : t.common with
  | true =>
    refine iff_of_true (by simp) fun shares => ?_
    rw [shares.1] at common
    cases common
  | false =>
    by_cases shares : c.Shares t
    · simpa [shares] using p.apply_ne n
    · simp [shares]

/-- Tenants call the objects of their own tables differently. -/
lemma not_mem_objects_of_ne (mem : t ∈ tables) (own : t.common = false) (ne : q ≠ p) {n : String}
    (memn : n ∈ t.objects (b.under p)) : n ∉ t.objects (b.under q) := by
  intro memn'
  rw [Table.objects_under, List.mem_map] at memn memn'
  obtain ⟨m, memm, rfl⟩ := memn
  obtain ⟨k, memk, eq⟩ := memn'
  simp only [Table.named, own, Bool.false_eq_true, if_false] at eq
  have ownName {n : String} (memn : n ∈ t.objects b.plain) : n ∈ ownNames :=
    mem_ownNames_of_own mem own (Table.mem_plainNames_of_mem_objects memn)
  exact ne (apply_inj (ownName memk) (ownName memm) eq).1

/-- Two tenants have separate tables with separate objects or one table with one set of objects, unless the
configuration shares a table that has objects. -/
lemma separate_or_joint_iff (mem : t ∈ tables) (ne : q ≠ p) :
    Separate c.ownership t b p q ∨ Joint c.ownership t b p q ↔ (c.Shares t → t.objects b.plain = []) := by
  unfold Separate Joint
  cases common : t.common with
  | true =>
    have free : ¬ c.Shares t := fun shares => by
      rw [shares.1] at common
      cases common
    refine iff_of_true (.inr ?_) fun shares => absurd shares free
    rw [physical_ownership mem, physical_ownership mem, Table.objects_under, Table.objects_under]
    simp [Table.named, common]
  | false =>
    have apart : ∀ n ∈ t.objects (b.under p), n ∉ t.objects (b.under q) := fun n memn =>
      not_mem_objects_of_ne mem common ne memn
    rw [physical_ownership mem, physical_ownership mem]
    by_cases shares : c.Shares t
    · simp only [shares, not_true, and_false, if_false, ne_eq, false_and, false_or, true_and, forall_const]
      constructor
      · intro same
        have none : t.objects (b.under p) = [] :=
          List.eq_nil_iff_forall_not_mem.2 fun n memn => apart n memn (same ▸ memn)
        rwa [Table.objects_under, List.map_eq_nil_iff] at none
      · intro none
        rw [Table.objects_under, Table.objects_under, none, List.map_nil, List.map_nil]
    · have ownName : t.name ∈ ownNames := mem_ownNames_of_own mem common List.mem_cons_self
      refine iff_of_true (.inl ⟨?_, apart⟩) fun shared => absurd shared shares
      rw [if_pos ⟨common, shares⟩, if_pos ⟨common, shares⟩]
      exact fun same => ne (apply_inj ownName ownName same).1.symm

/-- The objects of a table carry the prefix exactly if the table does, and two tenants have either separate
tables with separate objects or one table with one set of objects, unless the configuration shares a table that
is each tenant's own by its description and that has objects. -/
theorem objects_follow_iff (c : Configuration) {t : Table} (mem : t ∈ tables) (b : Blueprint) (p : TablePrefix) :
    (∀ suffix, (b.under p).objectName t suffix = (if c.ownership.physical t.name p = p.apply t.name then
      p.apply (b.plain.objectName t suffix) else b.plain.objectName t suffix) ↔ ¬ c.Shares t) ∧
    (Follows c.ownership t b p ↔ (c.Shares t → t.objects b.plain = [])) ∧
    ∀ q, q ≠ p → (Separate c.ownership t b p q ∨ Joint c.ownership t b p q ↔
      (c.Shares t → t.objects b.plain = [])) := by
  refine ⟨fun suffix => ?_, ?_, fun q ne => separate_or_joint_iff mem ne⟩
  · rw [Table.objectName_under]
    exact named_eq_iff mem _
  · rw [Follows, Table.objects_under, List.map_inj_left, List.eq_nil_iff_forall_not_mem]
    constructor
    · exact fun follow shares n memn => (named_eq_iff mem n).1 (follow n memn) shares
    · exact fun none n memn => (named_eq_iff mem n).2 fun shares => none shares n memn

/-- A configuration makes the tags common, and would make the surnames each tenant's own. The events, of which
it says nothing, and the surnames keep objects and tables together. -/
theorem objects_follow_smith_jones :
    let c : Configuration := { own := ["Surname"], common := ["TAG"] }
    let smith : TablePrefix := ⟨"smith_", by decide⟩
    let jones : TablePrefix := ⟨"jones_", by decide⟩
    Follows c.ownership event { documents := true } smith ∧
      (Separate c.ownership event { documents := true } smith jones ∨
        Joint c.ownership event { documents := true } smith jones) ∧
      Follows c.ownership surname { documents := true } smith ∧
      ¬ Follows c.ownership tag { documents := true } smith := by
  intro c smith jones
  have events := objects_follow_iff c (t := event) (by decide) { documents := true } smith
  have surnames := objects_follow_iff c (t := surname) (by decide) { documents := true } smith
  have tags := objects_follow_iff c (t := tag) (by decide) { documents := true } smith
  have free : ¬ c.Shares event ∧ ¬ c.Shares surname ∧ c.Shares tag := by decide +kernel
  have some : tag.objects (Blueprint.plain { documents := true }) ≠ [] := by decide +kernel
  exact ⟨events.2.1.2 fun shares => absurd shares free.1,
    (events.2.2 jones (by decide)).2 fun shares => absurd shares free.1,
    surnames.2.1.2 fun shares => absurd shares free.2.1, fun follow => some (tags.2.1.1 follow free.2.2)⟩

/-- A configuration makes the references common: two tenants have one table, and each puts an index of its own
on it. -/
theorem objects_of_shared_references :
    let c : Configuration := { common := ["reference"] }
    let smith : TablePrefix := ⟨"smith_", by decide⟩
    let jones : TablePrefix := ⟨"jones_", by decide⟩
    let b : Blueprint := { documents := false }
    reference ∈ tables ∧ c.ownership.physical reference.name smith = "reference" ∧
      c.ownership.physical reference.name jones = "reference" ∧
      reference.objects (b.under smith) = ["smith_reference_ref_handle_idx"] ∧
      reference.objects (b.under jones) = ["jones_reference_ref_handle_idx"] ∧
      ¬ Follows c.ownership reference b smith ∧
      ¬ (Separate c.ownership reference b smith jones ∨ Joint c.ownership reference b smith jones) := by
  decide +kernel

end Inventory
end Schema
end Tenancy
