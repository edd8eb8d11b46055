import Tenancy.Proofs.Connection.Talk
import Tenancy.Proofs.Sql.Head
import Tenancy.Schema.Upkeep

/-!
# What lasts through the upkeep of a schema

Upkeep runs statements one after the other and stops at the first that fails, but for the attempts to
enable extensions. So what each statement preserves is preserved by the whole: `Talk.Steady` says that
something good lasts as long as nothing fails, and that something less holds in any case. `Upkeeping`
collects what has to be shown of single statements; `steady_ensureWork` and `steady_createWork` are what
follows of the work that `Site.ensure` and `Site.createAll` do in their scopes.
-/

namespace Tenancy

namespace Connection
variable {σ : Type} [Server σ] {α β : Type}

/-- Whatever is good stays good through a procedure, or is at least not `bad` where it fails. -/
def Talk.Steady (c : Connection) (good bad : σ → Prop) (p : Talk α) : Prop :=
  Talk.Triple c good p (fun _ => good) bad

namespace Talk.Steady
variable {c : Connection} {good bad : σ → Prop} {p : Talk α}

/-- A value is steady. -/
lemma pure (a : α) : Steady c good bad (Pure.pure a : Talk α) := Triple.pure a fun _ h => h

/-- So is any result that is known. -/
lemma ofExcept (sub : ∀ s, good s → bad s) (result : Except Failure α) :
    Steady c good bad (.ofExcept result : Talk α) :=
  Triple.done (fun _ _ _ h => h) fun _ _ => sub

/-- Two steady procedures are steady one after the other. -/
lemma bind {f : α → Talk β} (first : Steady c good bad p)
    (rest : ∀ a, Steady c good bad (f a)) : Steady c good bad (p >>= f) :=
  Triple.bind first rest

/-- What follows a known result is done for that result only. -/
lemma ofExcept_bind (sub : ∀ s, good s → bad s) {result : Except Failure α} {f : α → Talk β}
    (h : ∀ a, result = .ok a → Steady c good bad (f a)) :
    Steady c good bad (Procedure.ofExcept result >>= f) := by
  cases result with
  | ok a => exact h a rfl
  | error e => exact ofExcept sub (.error e)

/-- To fetch a row is steady. -/
lemma fetchOne (cursor : Cursor) : Steady c good bad (Talk.fetchOne cursor) := Triple.fetchOne

/-- To run a statement is steady if it is so without its result. -/
lemma perform {sql : String} (h : Steady c good bad (Talk.execute sql [])) :
    Steady c good bad (Talk.perform sql) := bind h fun _ => pure ()

end Talk.Steady
end Connection

namespace Schema
open Connection Sql

/-- The statements that build a schema. -/
inductive Site.Construction (s : Site) : String → Prop where
  | extension {x : String} (mem : x ∈ optionalExtensions) :
    s.Construction s!"CREATE EXTENSION IF NOT EXISTS {x}"
  | definition {t : Table} {extensions : List String} {ds : List Definition} {d : Definition}
    (mem : t ∈ Inventory.tables) (describes : t.definitions (s.blueprint extensions) = .ok ds)
    (memd : d ∈ ds) : s.Construction d.sql
  | backfill {t : Table} {sql : String} (mem : t ∈ Inventory.tables)
    (describes : t.backfill (s.blueprint []) = some sql) : s.Construction sql

/-- The statements about data that the upkeep of a schema runs. -/
inductive Site.Statement (s : Site) : String → Prop where
  | lock : s.Statement "SELECT pg_advisory_xact_lock(hashtext(%s))"
  | construction {sql : String} (h : s.Construction sql) : s.Statement sql
  | settingQuery : s.Statement s.settingQuery
  | settingStatement : s.Statement s.settingStatement

/-- A table is created before anything else is done about it. -/
lemma Table.exists_of_definitions {t : Table} {b : Blueprint} {ds : List Definition}
    (h : t.definitions b = .ok ds) : ∃ rest, ds = t.creation b :: rest := by
  rw [Table.definitions] at h
  cases sync : t.syncFunction b with
  | error failure =>
    rw [sync] at h
    cases h
  | ok function =>
    rw [sync] at h
    cases h
    exact ⟨_, rfl⟩

/-- The verbs of definitions. -/
def buildingVerbs : List String := ["CREATE", "ALTER", "DROP", "UPDATE"]

/-- A definition starts with a verb of building. -/
lemma Definition.startsWith (d : Definition) : StartsWith buildingVerbs d.sql := by
  cases d <;> unfold sql <;> repeat apply StartsWith.append
  case createTable => exact ⟨"CREATE", by decide, by decide⟩
  case addColumn => exact ⟨"ALTER", by decide, by decide⟩
  case createFunction => exact ⟨"CREATE", by decide, by decide⟩
  case dropTrigger => exact ⟨"DROP", by decide, by decide⟩
  case createTrigger => exact ⟨"CREATE", by decide, by decide⟩
  case createIndex => exact ⟨"CREATE", by decide, by decide⟩

/-- So does every statement that builds the schema. -/
lemma Site.Construction.startsWith {s : Site} {sql : String} (h : s.Construction sql) :
    StartsWith buildingVerbs sql := by
  cases h with
  | extension => exact .append ⟨"CREATE", by decide, by decide⟩ _
  | definition => exact Definition.startsWith _
  | backfill _ describes =>
    unfold Table.backfill at describes
    split at describes
    · cases describes
      repeat apply StartsWith.append
      exact ⟨"UPDATE", by decide, by decide⟩
    · cases describes

/-- Every statement that the upkeep of a schema runs starts with a verb. -/
lemma Site.Statement.startsWithVerb {s : Site} {sql : String} (h : s.Statement sql) :
    StartsWithVerb sql := by
  cases h with
  | lock => exact ⟨"SELECT", by decide, by decide⟩
  | construction h => exact h.startsWith.mono (by decide)
  | settingQuery =>
    unfold Site.settingQuery
    repeat apply StartsWith.append
    exact ⟨"SELECT", by decide, by decide⟩
  | settingStatement =>
    unfold Site.settingStatement
    split
    all_goals
      repeat apply StartsWith.append
      exact ⟨"INSERT", by decide, by decide⟩

namespace Site
variable {σ : Type} [Server σ] {c : Connection} {good bad : σ → Prop} {s : Site}

/-- What has to be shown of the requests that build a schema. -/
structure Building (s : Site) (c : Connection) (good bad : σ → Prop) : Prop where
  sub : ∀ server, good server → bad server
  execute : ∀ sql, s.Construction sql → Talk.Steady c good bad (Talk.execute sql [])
  tryExtensions : Talk.Steady c good bad (tryExtensions optionalExtensions)

namespace Building
variable (h : s.Building c good bad)
include h

/-- To run such statements is steady where building is. -/
lemma performAll {sqls : List String} (all : ∀ sql ∈ sqls, s.Construction sql) :
    Talk.Steady c good bad (performAll sqls) := by
  induction sqls with
  | nil => exact .pure ()
  | cons sql sqls ih =>
    obtain ⟨head, tail⟩ := List.forall_mem_cons.1 all
    rw [Site.performAll]
    exact (h.execute sql head).perform.bind fun _ => ih tail

/-- So is creating tables. -/
lemma createEach (extensions : List String) {ts : List Table}
    (all : ∀ t ∈ ts, t ∈ Inventory.tables) :
    Talk.Steady c good bad (createEach (s.blueprint extensions) ts) := by
  induction ts with
  | nil => exact .pure ()
  | cons t ts ih =>
    obtain ⟨head, tail⟩ := List.forall_mem_cons.1 all
    rw [Site.createEach]
    refine .ofExcept_bind h.sub fun ds describes => ?_
    refine .bind (h.performAll fun sql mem => ?_) fun _ => ih tail
    obtain ⟨d, memd, rfl⟩ := List.mem_map.1 mem
    exact .definition head describes memd

/-- So is creating all of them. -/
lemma createTables : Talk.Steady c good bad s.createTables :=
  h.tryExtensions.bind fun extensions => h.createEach extensions fun _ mem => mem

/-- So is computing derived columns. -/
lemma computeAll :
    Talk.Steady c good bad
      (Site.performAll (Inventory.tables.filterMap fun t => t.backfill (s.blueprint []))) := by
  refine h.performAll fun sql mem => ?_
  obtain ⟨t, memt, describes⟩ := List.mem_filterMap.1 mem
  exact .backfill memt describes

/-- So is upgrading the schema. -/
lemma upgrade : Talk.Steady c good bad s.upgrade := h.createTables.bind fun _ => h.computeAll

/-- What the creation of one table brings about is so when all are created. -/
theorem reach {good' : σ → Prop} (after : s.Building c good' bad) {t : Table}
    (mem : t ∈ Inventory.tables)
    (creates : ∀ extensions, s.Construction (t.creation (s.blueprint extensions)).sql →
      Talk.Triple c good (Talk.perform (t.creation (s.blueprint extensions)).sql) (fun _ => good')
        bad) :
    Talk.Triple c good s.createTables (fun _ => good') bad := by
  refine .bind h.tryExtensions fun extensions => ?_
  have each {ts : List Table} (all : ∀ t ∈ ts, t ∈ Inventory.tables) (among : t ∈ ts) :
      Talk.Triple c good (Site.createEach (s.blueprint extensions) ts) (fun _ => good') bad := by
    induction ts with
    | nil => cases among
    | cons t' ts ih =>
      obtain ⟨head, tail⟩ := List.forall_mem_cons.1 all
      have definition {ds : List Definition} (describes : t'.definitions (s.blueprint extensions) = .ok ds) :
          ∀ sql ∈ ds.map (·.sql), s.Construction sql := fun sql mem => by
        obtain ⟨d, memd, rfl⟩ := List.mem_map.1 mem
        exact .definition head describes memd
      rw [Site.createEach]
      cases describes : t'.definitions (s.blueprint extensions) with
      | error failure => exact .done (fun _ eq => by cases eq) fun _ _ => h.sub
      | ok ds =>
        change Talk.Triple c good (Site.performAll (ds.map (·.sql)) >>= fun _ =>
          Site.createEach (s.blueprint extensions) ts) _ bad
        rcases List.mem_cons.1 among with rfl | among
        · obtain ⟨rest, rfl⟩ := Table.exists_of_definitions describes
          obtain ⟨first, others⟩ := List.forall_mem_cons.1 (definition describes)
          refine .bind (.bind (creates extensions first) fun _ => after.performAll others) fun _ => ?_
          exact after.createEach extensions tail
        · exact .bind (h.performAll (definition describes)) fun _ => ih tail among
  exact each (fun _ mem => mem) mem

end Building

/-- What has to be shown of the requests that the upkeep of a schema makes. -/
structure Upkeeping (s : Site) (c : Connection) (good bad : σ → Prop) : Prop where
  sub : ∀ server, good server → bad server
  execute : ∀ sql ps, s.Statement sql → Talk.Steady c good bad (Talk.execute sql ps)
  tableExists : Talk.Steady c good bad (Talk.tableExists settingsTable)
  tryExtensions : Talk.Steady c good bad (tryExtensions optionalExtensions)

namespace Upkeeping
variable (h : s.Upkeeping c good bad)
include h

/-- To take a lock is steady. -/
lemma lock (key : String) : Talk.Steady c good bad (lock key) :=
  (h.execute _ _ .lock).bind fun _ => .pure ()

/-- Where all statements of upkeep are steady, those of building are. -/
lemma building : s.Building c good bad where
  sub := h.sub
  execute sql construction := h.execute sql [] (.construction construction)
  tryExtensions := h.tryExtensions

/-- So creating the tables is steady. -/
lemma createTables : Talk.Steady c good bad s.createTables := h.building.createTables

/-- So is upgrading them. -/
lemma upgrade : Talk.Steady c good bad s.upgrade := h.building.upgrade

/-- So is reading a setting. -/
lemma setting? (key : String) : Talk.Steady c good bad (s.setting? key) := by
  refine (h.execute _ _ .settingQuery).bind fun cursor => ?_
  refine (Talk.Steady.fetchOne cursor).bind fun row => ?_
  cases row with
  | none => exact .pure none
  | some row => exact .ofExcept h.sub _

/-- So is writing one. -/
lemma setSetting (key : String) (value : Json) :
    Talk.Steady c good bad (s.setSetting key value) :=
  (h.execute _ _ .settingStatement).bind fun _ => .pure ()

/-- So is reading the version. -/
lemma version : Talk.Steady c good bad s.version :=
  (h.setting? versionKey).bind fun _ => .ofExcept h.sub _

/-- So is writing it. -/
lemma writeVersion (version : Int) : Talk.Steady c good bad (s.writeVersion version) :=
  h.setSetting versionKey _

/-- So is claiming the prefix. -/
lemma claim : Talk.Steady c good bad s.claim := by
  unfold Site.claim
  split
  · refine (h.setting? tenantKey).bind fun owner => ?_
    split
    · exact h.setSetting tenantKey _
    · split
      · exact .pure ()
      · exact .ofExcept h.sub _
    · exact .ofExcept h.sub _
  · exact .pure ()

/-- So is bringing the schema up to date inside of a transaction. -/
lemma bringUpToDate : Talk.Steady c good bad s.bringUpToDate := by
  refine h.tableExists.bind fun found => ?_
  cases found with
  | true =>
    refine h.version.bind fun stored => ?_
    by_cases newer : currentVersion < stored
    · rw [if_pos newer]
      exact .ofExcept h.sub _
    · rw [if_neg newer]
      by_cases older : stored < currentVersion
      · rw [if_pos older]
        refine (h.lock _).bind fun _ => h.upgrade.bind fun _ => ?_
        exact (h.writeVersion _).bind fun _ => .pure _
      · rw [if_neg older]
        exact .pure _
  | false =>
    refine (h.lock _).bind fun _ => h.createTables.bind fun _ => ?_
    exact (h.writeVersion _).bind fun _ => .pure _

/-- The work of `Site.ensure`. -/
theorem ensureWork :
    Talk.Steady c good bad (do
      Site.lock s.prefixLock
      let outcome ← s.bringUpToDate
      s.claim
      return outcome) :=
  (h.lock _).bind fun _ => h.bringUpToDate.bind fun _ => h.claim.bind fun _ => .pure _

/-- The work of `Site.createAll`. -/
theorem createWork :
    Talk.Steady c good bad (do
      Site.lock commonLock
      s.createTables) :=
  (h.lock _).bind fun _ => h.createTables

/-- The work of `enableExtensions`. -/
theorem extensionWork :
    Talk.Steady c good bad (do
      return (← Site.tryExtensions optionalExtensions).mergeSort (· ≤ ·)) :=
  h.tryExtensions.bind fun _ => .pure _

end Upkeeping
end Site
end Schema
end Tenancy
