import Tenancy.Proofs.Connection.Granted
import Tenancy.Proofs.Schema.Composition
import Tenancy.Proofs.Schema.Ledger
import Tenancy.Proofs.Schema.Savepoints
import Tenancy.Proofs.Server.Reliance

/-!
# What the upkeep of a schema asks for

Whatever is answered, upkeep makes requests of a few kinds. A scope is opened and closed by those of
`Scope.Frames`. What builds a schema runs statements without parameters: those of `Site.Construction`
(`Site.Constructs`), and those about savepoints (`Site.Builds`). The rest are about one setting each
(`Site.Tends`). What is built and written does not fail by itself (`Obliging`), so that where everything is
granted work in a scope comes to what it comes to by itself (`Scope.exists_of_granted_around`).
-/

namespace Tenancy

namespace Schema
open Connection Engine Interleaving

/-! ## Scopes -/

/-- The requests that open and close a scope. -/
inductive Scope.Frames : Request → Prop where
  | inTransaction : Frames .inTransaction
  | begin : Frames .begin
  | commit : Frames .commit
  | rollback : Frames .rollback
  | place {sql : String} (mem : sql ∈ savepointStatements) : Frames (.execute sql [])

namespace Scope

/-- A statement about the savepoint of a scope asks for what scopes ask for. -/
lemma asks_place {sql : String} (mem : sql ∈ savepointStatements) : Asks Frames (Talk.perform sql) :=
  .perform (.place mem)

/-- So does opening a scope. -/
lemma asks_enter : Asks Frames enter := by
  refine (Asks.request .inTransaction).bind fun inside => ?_
  cases inside with
  | true => exact (asks_place (by decide)).bind fun _ => .pure _
  | false => exact (Asks.request .begin).bind fun _ => .pure _

/-- So does closing it with what was done. -/
lemma asks_keep (scope : Scope) : Asks Frames scope.keep := by
  cases scope with
  | transaction => exact .request .commit
  | savepoint => exact asks_place (by decide)

/-- So does closing it without. -/
lemma asks_undo (scope : Scope) : Asks Frames scope.undo := by
  cases scope with
  | transaction => exact .request .rollback
  | savepoint => exact (asks_place (by decide)).bind fun _ => asks_place (by decide)

/-- Work in a scope asks for what the work asks for, and for what opens and closes the scope. -/
theorem asks_around {α : Type} {K : Request → Prop} {work : Talk α} (frames : ∀ r, Frames r → K r)
    (asks : Asks K work) : Asks K (around work) := by
  refine (asks_enter.imp frames).bind fun scope => asks.attempt.bind fun result => ?_
  cases result with
  | ok a => exact ((asks_keep scope).imp frames).bind fun _ => .pure a
  | error failure => exact ((asks_undo scope).imp frames).attempt.bind fun _ => .ofExcept _

end Scope

/-! ## Tables -/

/-- The requests that run what builds a schema. -/
def Site.Constructs (s : Site) (r : Request) : Prop := ∃ sql, r = .execute sql [] ∧ s.Construction sql

/-- The requests that build a schema. -/
def Site.Builds (s : Site) (r : Request) : Prop :=
  ∃ sql, r = .execute sql [] ∧ (s.Construction sql ∨ sql ∈ savepointStatements)

namespace Site
variable {s : Site}

/-- What is asked for to create tables builds something. -/
lemma Constructs.builds {r : Request} (h : s.Constructs r) : s.Builds r := by
  obtain ⟨sql, eq, construction⟩ := h
  exact ⟨sql, eq, .inl construction⟩

/-- Attempts to enable extensions are made of their creation and of savepoints around it. -/
lemma asks_tryExtensions {extensions : List String} (all : ∀ x ∈ extensions, x ∈ optionalExtensions) :
    Asks s.Builds (tryExtensions extensions) := by
  have place : ∀ sql ∈ savepointStatements, Asks s.Builds (Talk.perform sql) := fun sql mem =>
    .perform ⟨sql, rfl, .inr mem⟩
  induction extensions with
  | nil => exact .pure []
  | cons x extensions ih =>
    obtain ⟨head, tail⟩ := List.forall_mem_cons.1 all
    refine (place _ (by decide)).bind fun _ => ?_
    have creates : Asks s.Builds (Talk.perform s!"CREATE EXTENSION IF NOT EXISTS {x}") :=
      .perform ⟨_, rfl, .inl (.extension head)⟩
    refine creates.attempt.bind fun result => ?_
    cases result with
    | ok _ => exact (place _ (by decide)).bind fun _ => (ih tail).bind fun _ => .pure _
    | error failure => exact (place _ (by decide)).bind fun _ => ih tail

/-- Statements that build a schema are run one after the other. -/
lemma asks_performAll {sqls : List String} (all : ∀ sql ∈ sqls, s.Construction sql) :
    Asks s.Constructs (performAll sqls) := by
  induction sqls with
  | nil => exact .pure ()
  | cons sql sqls ih =>
    obtain ⟨head, tail⟩ := List.forall_mem_cons.1 all
    exact (Asks.perform ⟨sql, rfl, head⟩).bind fun _ => ih tail

/-- Tables are created by nothing but their definitions. -/
lemma asks_createEach (extensions : List String) {ts : List Table} (all : ∀ t ∈ ts, t ∈ Inventory.tables) :
    Asks s.Constructs (createEach (s.blueprint extensions) ts) := by
  induction ts with
  | nil => exact .pure ()
  | cons t ts ih =>
    obtain ⟨head, tail⟩ := List.forall_mem_cons.1 all
    rw [createEach]
    cases describes : t.definitions (s.blueprint extensions) with
    | error failure => exact .ofExcept _
    | ok ds =>
      refine Asks.bind (p := performAll (ds.map (·.sql))) (asks_performAll fun sql mem => ?_) fun _ => ih tail
      obtain ⟨d, memd, rfl⟩ := List.mem_map.1 mem
      exact .definition head describes memd

/-- Derived columns are computed anew by nothing but the statements for it. -/
lemma asks_computeAll :
    Asks s.Constructs (performAll (Inventory.tables.filterMap fun t => t.backfill (s.blueprint []))) := by
  refine asks_performAll fun sql mem => ?_
  obtain ⟨t, memt, describes⟩ := List.mem_filterMap.1 mem
  exact .backfill memt describes

/-- The creation of all tables makes no other requests. -/
theorem asks_createTables : Asks s.Builds s.createTables :=
  (asks_tryExtensions fun _ mem => mem).bind fun extensions =>
    (asks_createEach extensions fun _ mem => mem).imp fun _ => Constructs.builds

/-- Nor does an upgrade. -/
theorem asks_upgrade : Asks s.Builds s.upgrade :=
  asks_createTables.bind fun _ => asks_computeAll.imp fun _ => Constructs.builds

/-! ## Settings -/

/-- The requests about a setting. -/
inductive Tends (s : Site) (key : String) : Request → Prop where
  | reads : s.Tends key (.execute s.settingQuery [.text key])
  | fetches (cursor : Cursor) : s.Tends key (.fetchOne cursor)
  | writes (value : Json) :
    s.Tends key (.execute s.settingStatement (settingParameters s.documents key value))

/-- The query for a setting is about data. -/
lemma reads_settingQuery : Reading.ofSql s.settingQuery = .work := by
  obtain ⟨v, mem, rest, eq⟩ := (Site.Statement.settingQuery (s := s)).startsWithVerb
  rw [List.append_assoc] at eq
  exact ofSql_of_verb mem eq.symm

/-- So is the statement that writes one. -/
lemma reads_settingStatement : Reading.ofSql s.settingStatement = .work := by
  obtain ⟨v, mem, rest, eq⟩ := (Site.Statement.settingStatement (s := s)).startsWithVerb
  rw [List.append_assoc] at eq
  exact ofSql_of_verb mem eq.symm

/-- The query for a setting takes no lock. -/
lemma settingQuery_ne_lockStatement : s.settingQuery ≠ lockStatement := by
  have other : ∀ documents, Site.settingQuery { documents } ≠ lockStatement := by decide +kernel
  exact other s.documents

/-- Nor does the statement that writes one. -/
lemma settingStatement_ne_lockStatement : s.settingStatement ≠ lockStatement := by
  have other : ∀ documents, Site.settingStatement { documents } ≠ lockStatement := by decide +kernel
  exact other s.documents

/-- To read a setting asks for that setting. -/
lemma asks_setting? (key : String) : Asks (s.Tends key) (s.setting? key) := by
  refine (Asks.request .reads).bind fun cursor => (Asks.request (.fetches cursor)).bind fun row => ?_
  cases row with
  | none => exact .pure none
  | some row => exact .ofExcept _

/-- To write a setting asks for that setting. -/
lemma asks_setSetting (key : String) (value : Json) : Asks (s.Tends key) (s.setSetting key value) :=
  (Asks.request (.writes value)).bind fun _ => .pure ()

/-- To write the version asks for the setting of the version. -/
lemma asks_writeVersion (version : Int) : Asks (s.Tends versionKey) (s.writeVersion version) :=
  asks_setSetting _ _

/-- To claim a prefix asks for the setting of its owner. -/
lemma asks_claim : Asks (s.Tends tenantKey) s.claim := by
  unfold claim
  split
  · refine (asks_setting? tenantKey).bind fun owner => ?_
    split
    · exact asks_setSetting _ _
    · split
      · exact .pure ()
      · exact .ofExcept _
    · exact .ofExcept _
  · exact .pure ()

end Site

/-! ## Work that does not fail by itself -/

namespace Site

/-- To take a lock succeeds if its request is answered. -/
lemma obliging_lock (key : String) : Obliging (lock key) :=
  (Obliging.execute _ _).bind fun _ => .pure ()

/-- So does writing a setting. -/
lemma obliging_setSetting (s : Site) (key : String) (value : Json) :
    Obliging (s.setSetting key value) :=
  (Obliging.execute _ _).bind fun _ => .pure ()

/-- So does asking for one. -/
lemma obliging_query (s : Site) (key : String) : Obliging (s.query key) :=
  (Obliging.execute _ _).bind fun _ => (Obliging.request _).bind fun _ => .pure _

/-- So does running one statement after the other. -/
lemma obliging_performAll (sqls : List String) : Obliging (performAll sqls) := by
  induction sqls with
  | nil => exact .pure ()
  | cons sql sqls ih => exact (Obliging.perform sql).bind fun _ => ih

/-- So does trying extensions. -/
lemma obliging_tryExtensions (extensions : List String) : Obliging (tryExtensions extensions) := by
  induction extensions with
  | nil => exact .pure []
  | cons extension extensions ih =>
    refine (Obliging.perform _).bind fun _ => (Obliging.attempt _).bind fun result => ?_
    cases result with
    | ok u => exact (Obliging.perform _).bind fun _ => ih.bind fun _ => .pure _
    | error failure => exact (Obliging.perform _).bind fun _ => ih

/-- So does creating tables. -/
lemma obliging_createEach (b : Blueprint) {ts : List Table} (all : ∀ t ∈ ts, t ∈ Inventory.tables) :
    Obliging (createEach b ts) := by
  induction ts with
  | nil => exact .pure ()
  | cons t ts ih =>
    obtain ⟨head, tail⟩ := List.forall_mem_cons.1 all
    obtain ⟨ds, describes⟩ := Inventory.exists_definitions head b
    rw [createEach, describes]
    exact (Obliging.ofExcept ds).bind fun _ => (obliging_performAll _).bind fun _ => ih tail

/-- So does creating all of them. -/
lemma obliging_createTables (s : Site) : Obliging s.createTables :=
  (obliging_tryExtensions _).bind fun _ => obliging_createEach _ fun _ mem => mem

/-- So does upgrading them. -/
lemma obliging_upgrade (s : Site) : Obliging s.upgrade :=
  s.obliging_createTables.bind fun _ => obliging_performAll _

/-- Once it is decided that something has to be done, it is done. -/
lemma carry_built {σ : Type} [Server σ] {s : Site} {work : Talk Unit} (obliging : Obliging work)
    {outcome : Outcome} {scene : Scene σ}
    (granted : Granted (do
      lock commonLock
      work
      s.writeVersion currentVersion
      return outcome) scene) :
    (carry (do
      lock commonLock
      work
      s.writeVersion currentVersion
      return outcome) scene).1 = .ok outcome := by
  obtain ⟨_, s₁, -, granted, locked⟩ := granted.step (obliging_lock _)
  obtain ⟨_, s₂, -, granted, worked⟩ := granted.step obliging
  obtain ⟨_, s₃, -, -, written⟩ := granted.step (s.obliging_setSetting versionKey (.int currentVersion))
  rw [locked, worked]
  exact congrArg Prod.fst written

end Site

namespace Scope

/-- To open a scope fails where a request does. -/
lemma strict_enter : Strict enter := by
  refine (Strict.request _).bind fun inside => ?_
  cases inside with
  | true => exact (Strict.perform _).bind fun _ => .done _
  | false => exact (Strict.request _).bind fun _ => .done _

/-- Work in a scope is granted as a whole where the work is, and what closes the scope after it. -/
lemma granted_around {σ : Type} [Server σ] {α : Type} {work : Talk α} {s s₁ : Scene σ} {scope : Scope}
    (entered : carry enter s = (.ok scope, s₁)) (granted : Granted work s₁)
    (keeps : ∀ a s₂, carry work s₁ = (.ok a, s₂) → Granted scope.keep s₂)
    (undoes : ∀ failure s₂, carry work s₁ = (.error failure, s₂) → Granted scope.undo s₂) :
    Granted (around work) s := by
  refine granted_bind.2 ⟨strict_enter.granted entered, fun scope' s' eq => ?_⟩
  cases entered.symm.trans eq
  refine granted_bind.2 ⟨granted_attempt.2 granted, fun result s₂ eq => ?_⟩
  rw [carry_attempt] at eq
  rcases worked : carry work s₁ with ⟨failure | a, s₃⟩
  · rw [worked] at eq
    cases eq
    exact granted_bind.2 ⟨granted_attempt.2 (undoes failure s₃ worked), fun _ _ _ => trivial⟩
  · rw [worked] at eq
    cases eq
    exact granted_bind.2 ⟨keeps a s₃ worked, fun _ _ _ => trivial⟩

/-- To open a scope succeeds if its requests are answered. -/
lemma obliging_enter : Obliging enter := by
  refine (Obliging.request _).bind fun inside => ?_
  cases inside with
  | true => exact (Obliging.perform _).bind fun _ => .pure _
  | false => exact (Obliging.request _).bind fun _ => .pure _

/-- So does closing it with what was done. -/
lemma obliging_keep (scope : Scope) : Obliging scope.keep := by
  cases scope with
  | transaction => exact .request _
  | savepoint => exact .perform _

/-- Work in a scope comes to what it comes to by itself, where everything is granted. -/
theorem exists_of_granted_around {σ : Type} [Server σ] {α : Type} {work : Talk α} {s : Scene σ}
    (granted : Granted (around work) s) :
    ∃ scope s₁, carry enter s = (.ok scope, s₁) ∧ Granted work s₁ ∧
      (carry (around work) s).1 = (carry work s₁).1 := by
  obtain ⟨scope, s₁, entered, going, -⟩ := granted.step obliging_enter
  obtain ⟨attempts, rest⟩ := granted_bind.1 going
  refine ⟨scope, s₁, entered, granted_attempt.1 attempts, ?_⟩
  rw [carry_around, entered]
  dsimp only
  rcases worked : carry work s₁ with ⟨failure | a, s₂⟩
  · rfl
  · have closes := rest (.ok a) s₂ (by rw [carry_attempt, worked])
    obtain ⟨u, s₃, closed, -⟩ := closes.step (obliging_keep scope)
    dsimp only
    rw [closed]
    rfl

end Scope

end Schema
end Tenancy
