import Tenancy.Proofs.Connection.Adapt
import Tenancy.Proofs.Schema.Transaction

/-!
# Upkeep is done as a whole or not at all

Where no transaction is open, the upkeep of a schema has one of its own. Whichever of its statements is
refused, and wherever the connection is lost, `upkeep_atomic` says that the engine keeps either
everything, with a success, or nothing, with a failure; no transaction is open afterwards.

While the work is going on the transaction is watched. It is clean as long as no statement has failed; a
refused extension ends that, and the way back to the savepoint brings it about again.
-/

namespace Tenancy

namespace Engine
variable {e : Engine}

/-- Watches the transaction of a client while anything may be received. -/
def Watch.ofClient (start : State e) (k : Client) : Watch e := ⟨start, k, fun _ _ => True⟩

namespace State
variable {s₁ s : State e} {k : Client}

/-- The client is in a transaction that is not spoiled, and nothing was kept since the state `s₁`. -/
abbrev Sound (s₁ : State e) (k : Client) : State e → Prop := (Watch.ofClient s₁ k).Clean fun _ => True

/-- The client is in a transaction unless its connection was lost, and nothing was kept since the state
`s₁`. -/
abbrev Working (s₁ : State e) (k : Client) : State e → Prop :=
  (Watch.ofClient s₁ k).Inside fun _ => True

/-- While work is going on a statement that does not end the transaction keeps nothing, and if it
succeeds the transaction is not spoiled. -/
lemma Working.run (h : Working s₁ k s) {sql : String} (stays : (Reading.ofSql sql).isEnd = false)
    (ps : List Parameter) :
    Leaves (fun _ => Sound s₁ k) (Working s₁ k) (Server.run k sql ps s) :=
  Watch.Inside.run h stays trivial (fun _ _ => trivial) (fun _ _ => trivial) fun _ _ _ _ _ => trivial

/-- Nothing was kept since the state `s₀` but what a client did in the transaction that it ended last. -/
structure Committed (s₀ : State e) (k : Client) (s : State e) : Prop where
  kept : ∃ data, s.kept = data ∧ s.commits = (k, data) :: s₀.commits
  ended : (s.sessions k).transaction = none
  last : s.log.head? = some (k, .simple "COMMIT")

/-- What was committed under a watch was committed. -/
lemma Committed.of_watch {T : Transaction e → Prop} (h : (Watch.ofClient s₁ k).Committed T s) :
    Committed s₁ k s := by
  obtain ⟨t, -, kept, commits⟩ := h.kept
  obtain ⟨new, log, -⟩ := h.log
  refine ⟨⟨t.data, kept, commits⟩, h.ended, ?_⟩
  rw [log]
  rfl

end State
end Engine

namespace Schema
open Connection Engine Sql
variable {e : Engine} {α : Type}

/-- Either everything was kept that was done in one transaction, and it succeeded, or it failed and
nothing was kept; no transaction is open any more. -/
def AllOrNothing (s₀ : State e) (o : Except Failure α × Scene (State e)) : Prop :=
  o.2.connection.inTransaction = false ∧
    Leaves (fun _ server => ∃ k, State.Committed s₀ k server) (State.Same s₀)
      (o.1, o.2.world.server)

/-- Inside a transaction each statement with a gap keeps nothing, and none spoils it that succeeds. -/
lemma triple_execute {c : Connection} {k : Client} (hk : c.client? = some k)
    (ht : c.inTransaction = true) (keeps : ∀ r ∈ c.rules, r.KeepsGaps) (s₁ : State e) {sql : String}
    (gap : sql.toList.any isGap) (ps : List Parameter) :
    Talk.Triple c (State.Working s₁ k) (Talk.execute sql ps) (fun _ => State.Sound s₁ k)
      (State.Working s₁ k) :=
  Talk.Triple.execute hk ht fun _ working =>
    State.Working.run working (isEnd_adapt keeps gap) ps

/-- Attempts to enable extensions keep nothing: after a refusal the transaction is spoiled only until
the way back to the savepoint. -/
lemma steady_tryExtensions {c : Connection} {k : Client} (hk : c.client? = some k)
    (ht : c.inTransaction = true) (keeps : ∀ r ∈ c.rules, r.KeepsGaps) (s₁ : State e)
    (extensions : List String) :
    Talk.Steady c (State.Sound s₁ k) (State.Working s₁ k) (Site.tryExtensions extensions) := by
  have back {sql : String} (gap : sql.toList.any isGap) :
      Talk.Triple c (State.Working s₁ k) (Talk.perform sql) (fun _ => State.Sound s₁ k)
        (State.Working s₁ k) :=
    .bind (triple_execute hk ht keeps s₁ gap []) fun _ => .pure () fun _ h => h
  have steady {sql : String} (gap : sql.toList.any isGap) :
      Talk.Steady c (State.Sound s₁ k) (State.Working s₁ k) (Talk.perform sql) :=
    (back gap).weaken (fun _ h => h.toInside) (fun _ _ h => h) fun _ h => h
  induction extensions with
  | nil => exact .pure []
  | cons extension extensions ih =>
    rw [Site.tryExtensions]
    have named : s!"CREATE EXTENSION IF NOT EXISTS {extension}".toList.any isGap := by
      rw [String.toList_append, List.any_append, Bool.or_eq_true]
      exact .inl (by decide)
    refine (steady (by decide)).bind fun _ => ?_
    refine Talk.Triple.bind (steady named).attempt fun result => ?_
    cases result with
    | ok u => exact (steady (by decide)).bind fun _ => ih.bind fun _ => .pure _
    | error failure => exact Talk.Triple.bind (back (by decide)) fun _ => ih

/-- The work of upkeep keeps nothing, and a transaction in which it succeeds is not spoiled. -/
lemma upkeeping_sound {c : Connection} {k : Client} (hk : c.client? = some k)
    (ht : c.inTransaction = true) (keeps : ∀ r ∈ c.rules, r.KeepsGaps) (s₁ : State e) (site : Site) :
    site.Upkeeping c (State.Sound s₁ k) (State.Working s₁ k) where
  sub _ h := h.toInside
  execute _ ps statement :=
    (triple_execute hk ht keeps s₁ statement.startsWithVerb.any_isGap ps).weaken
      (fun _ h => h.toInside) (fun _ _ h => h) fun _ h => h
  tableExists :=
    .tableExists hk ht (fun _ sound => (State.Working.run sound.toInside) isEnd_existsQuery _)
      fun _ h => h.toInside
  tryExtensions := steady_tryExtensions hk ht keeps s₁ _

/-- Work that keeps nothing by itself is kept as a whole or not at all. -/
theorem allOrNothing_around {s : Scene (State e)} (closed : s.connection.inTransaction = false)
    {work : Talk α}
    (steady : ∀ (c : Connection) (k : Client) (s₁ : State e), c.client? = some k →
      c.inTransaction = true → c.rules = s.connection.rules →
      Talk.Steady c (State.Sound s₁ k) (State.Working s₁ k) work) :
    AllOrNothing s.world.server (carry (Scope.around work) s) := by
  have permits : Permits fun _ _ => True := ⟨fun _ _ _ => trivial, fun _ _ => trivial⟩
  have prepared : Prepared (fun _ => True) s :=
    ⟨trivial, fun _ _ _ _ => trivial, fun _ _ => trivial⟩
  obtain ⟨outside, leaves⟩ := around_spec closed permits prepared fun c k channel hk => by
    obtain ⟨channel, rfl⟩ := channel
    exact steady _ k s.world.server hk rfl rfl
  refine ⟨outside, leaves.mono (fun a server committed => ?_) fun server since => since.toSame⟩
  obtain ⟨k, committed⟩ := committed
  exact ⟨k, .of_watch committed⟩

/-- Where no transaction is open, schemas are brought up to date, tables created and extensions enabled
as a whole or not at all: the engine keeps everything that was done when the outcome is a success, and
nothing when it is a failure, whatever it refuses and wherever it loses the connection. -/
theorem upkeep_atomic (site : Site) (s : Scene (State e))
    (closed : s.connection.inTransaction = false) (keeps : ∀ r ∈ s.connection.rules, r.KeepsGaps) :
    AllOrNothing s.world.server (carry site.ensure s) ∧
      AllOrNothing s.world.server (carry site.createAll s) ∧
      AllOrNothing s.world.server (carry Site.enableExtensions s) := by
  have upkeeping (c : Connection) (k : Client) (s₁ : State e) (hk : c.client? = some k)
      (ht : c.inTransaction = true) (rules : c.rules = s.connection.rules) :
      site.Upkeeping c (State.Sound s₁ k) (State.Working s₁ k) :=
    upkeeping_sound hk ht (by rwa [rules]) s₁ site
  refine ⟨?_, ?_, ?_⟩
  · exact allOrNothing_around closed fun c k s₁ hk ht rules => (upkeeping c k s₁ hk ht rules).ensureWork
  · exact allOrNothing_around closed fun c k s₁ hk ht rules => (upkeeping c k s₁ hk ht rules).createWork
  · exact allOrNothing_around closed fun c k s₁ hk ht rules =>
      (upkeeping c k s₁ hk ht rules).extensionWork

/-- With the rules for legacy statements the tables of a tenant are created or not, where the engine
loses the connection at the twentieth statement. -/
theorem upkeep_atomic_lost :
    let site : Site := { documents := true }
    let s := Scene.rehearsal fun n _ => if n = 20 then .close else .accept
    s.connection.inTransaction = false ∧ (∀ r ∈ s.connection.rules, r.KeepsGaps) ∧
      AllOrNothing s.world.server (carry site.ensure s) := by
  intro site s
  have keeps : ∀ r ∈ s.connection.rules, r.KeepsGaps := keepsGaps_of_mem_legacyRules
  exact ⟨rfl, keeps, (upkeep_atomic site s rfl keeps).1⟩

end Schema
end Tenancy
