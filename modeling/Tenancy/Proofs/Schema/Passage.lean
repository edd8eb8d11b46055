import Tenancy.Proofs.Schema.Recording
import Tenancy.Proofs.Schema.Sight

/-!
# Through a scope

A piece of work in a scope is done in a transaction: in one that was begun for it, or in the caller's. What
is known of the data where the connection stands (`Stands`) is known of those in the transaction when the
scope was entered (`entered_enter`), and what the work makes of them is what the connection sees when the
scope was closed (`sees_around`), whichever kind of scope it was.
-/

namespace Tenancy.Schema
open Connection Engine
variable {e : Engine} {α : Type} {s s₁ : Scene (State e)} {k : Client} {P : e.Data → Prop}

/-- The data with which a scope can begin are as `P` says: those that are kept, where the scope is a
transaction, and those of the transactions that clients have open. -/
structure Stands (P : e.Data → Prop) (s : Scene (State e)) : Prop where
  kept : s.connection.inTransaction = false → P s.world.server.kept
  former : ∀ k, Offers s k → ∀ t, (s.world.server.sessions k).transaction = some t → P t.data

/-- Nothing is asked of any data. -/
lemma Stands.trivial (s : Scene (State e)) : Stands (fun _ => True) s :=
  ⟨fun _ => .intro, fun _ _ _ _ => .intro⟩

/-- What a connection sees is what its scope begins with, if no other client is in a transaction. -/
lemma Sees.stands (sees : Sees P s) (alone : Alone s) : Stands P s := by
  cases sees with
  | outside flag kept fresh =>
    refine ⟨fun _ => kept, fun k offers t begun => ?_⟩
    rw [alone flag k offers] at begun
    cases begun
  | inside flag held connected transaction sound data =>
    refine ⟨fun outside => ?_, fun k offers t begun => ?_⟩
    · rw [flag] at outside
      cases outside
    · rcases offers with own | ⟨number, pool, channel, -⟩
      · obtain rfl := Option.some.inj (held.symm.trans own)
        rw [transaction] at begun
        cases begun
        exact data
      · rw [client?, channel] at held
        cases held

/-- A scope was entered: the connection is in a transaction with data as `P` says. -/
structure Entered (P : e.Data → Prop) (s s₁ : Scene (State e)) : Prop where
  rules : s₁.connection.rules = s.connection.rules
  lease : s₁.connection.lease = s.connection.lease
  inside : s₁.connection.inTransaction = true
  underway : ∃ (start : State e) (base : List (String × e.Data)) (k : Client),
    s₁.connection.client? = some k ∧ Underway start base k P s₁.world.server

/-- Work can start from the savepoints that a transaction has. -/
lemma underway_of_clean {start server : State e}
    (clean : (Watch.ofClient start k).Clean (fun t => P t.data) server) :
    ∃ base, Underway start base k P server := by
  obtain ⟨t, transaction, data, sound⟩ := clean.inside
  exact ⟨t.savepoints, clean.toSince, clean.connected, t, transaction, ⟨.refl _, data⟩, sound⟩

/-- A savepoint that is set leaves the data of the transaction alone; outside of one it is refused. -/
lemma run_savepoint {server : State e}
    (former : ∀ t, (server.sessions k).transaction = some t → P t.data) {sql name : String}
    (reading : Reading.ofSql sql = .savepoint name) (ps : List Parameter) :
    Leaves (fun _ => (Watch.ofClient server k).Clean fun t => P t.data) (fun _ => True)
      (Server.run k sql ps server) := by
  rcases ran : Server.run k sql ps server with ⟨fault | reply, server'⟩
  · trivial
  -- That there is a reply shows that there is a transaction: outside of one no savepoint is obeyed.
  · have inside : (Watch.ofClient server k).Inside (fun t => P t.data) server := by
      rw [State.run_eq] at ran
      obtain ⟨opened, obeys⟩ := State.obey_of_receive ran
      refine ⟨.refl _, .inr ⟨opened, ?_⟩⟩
      cases found : (server.sessions k).transaction with
      | some t => exact ⟨t, found, former t found⟩
      | none =>
        unfold State.obey at obeys
        rw [State.sessions_note, found, reading] at obeys
        cases obeys
    have left : Leaves (fun _ => (Watch.ofClient server k).Clean fun t => P t.data)
        ((Watch.ofClient server k).Inside fun _ => True) (Server.run k sql ps server) := by
      refine inside.run (by rw [reading]; rfl) trivial (fun _ _ => trivial) (fun _ _ => trivial)
        fun t reply t' holds obeyed => ?_
      rw [t.obey_savepoint ps reading] at obeyed
      split at obeyed
      · cases obeyed
      · cases obeyed
        exact holds
    rw [ran] at left
    exact left

/-- A savepoint that is forgotten leaves the data of the transaction alone. -/
lemma run_release {start server : State e} {base : List (String × e.Data)}
    (h : Underway start base k P server) {sql name : String}
    (reading : Reading.ofSql sql = .release name) (ps : List Parameter) :
    Leaves (fun _ => (Watch.ofClient start k).Clean fun t => P t.data) (State.Working start k)
      (Server.run k sql ps server) := by
  refine h.toInside.run (by rw [reading]; rfl) trivial (fun _ _ => trivial) (fun _ _ => trivial)
    fun t reply t' holds obeyed => ?_
  unfold Transaction.obey at obeyed
  rw [reading] at obeyed
  dsimp only at obeyed
  split at obeyed
  · cases obeyed
  · split at obeyed
    · cases obeyed
    · cases obeyed
      exact holds.2

variable (legible : Legible s.connection)
include legible

/-- Where a scope is entered, the transaction has data as it stood before. -/
theorem entered_enter (stands : Stands P s) :
    Leaves (fun _ s₁ => Entered P s s₁) (fun _ => True) (carry Scope.enter s) := by
  have permits : Permits fun _ _ => True := ⟨fun _ _ _ => trivial, fun _ _ => trivial⟩
  cases flag : s.connection.inTransaction with
  | false =>
    have prepared : Prepared (fun t : Transaction e => P t.data) s :=
      ⟨stands.kept flag, stands.former, fun _ data => data⟩
    refine (enter_spec flag permits prepared).mono (fun scope s₁ entered => ?_) fun _ _ => trivial
    obtain ⟨-, ⟨channel, connection⟩, k, held, clean⟩ := entered
    obtain ⟨base, underway⟩ := underway_of_clean clean
    exact ⟨by rw [connection], by rw [connection], by rw [connection], _, base, k, held, underway⟩
  | true =>
    obtain ⟨-, ⟨channel, connection⟩, held⟩ :=
      obtains_since (F := fun _ t => P t.data) permits stands.former fun _ _ data => data
    rw [Scope.carry_enter_client flag]
    rcases got : outcome client s with ⟨failure | k, s'⟩
    · trivial
    · rw [got] at connection held
      obtain ⟨still, former⟩ := held k rfl
      dsimp only at connection still former ⊢
      have flag' : s'.connection.inTransaction = true := by
        rw [connection]
        exact flag
      have legible' : Legible s'.connection := legible.congr (by rw [connection]) (by rw [connection])
      have opens : Talk.Triple s'.connection (· = s'.world.server)
          (Talk.perform s!"SAVEPOINT {Scope.savepointName}")
          (fun _ => (Watch.ofClient s'.world.server k).Clean fun t => P t.data) fun _ => True := by
        refine .perform still flag' fun server same => ?_
        rw [legible'.adapt_savepoint _ (by simp [savepointStatements]), same]
        exact run_savepoint former rfl []
      obtain ⟨like, left⟩ := opens s' (.refl _) rfl
      rw [Scope.carry_enter_inside flag']
      rcases opened : carry (Talk.perform s!"SAVEPOINT {Scope.savepointName}") s' with ⟨failure | u, s₁⟩
      · trivial
      · rw [opened] at like left
        obtain ⟨base, underway⟩ := underway_of_clean left
        obtain ⟨last, connection'⟩ := like
        dsimp only at connection'
        refine ⟨?_, ?_, ?_, _, base, k, ?_, underway⟩
        · rw [connection', connection]
        · rw [connection', connection]
        · rw [connection']
          exact flag'
        · rw [connection']
          exact still

/-- What a transaction had in it when a scope was closed is what the connection sees. -/
theorem sees_keep {start : State e} {base : List (String × e.Data)}
    (held : s.connection.client? = some k) (inside : s.connection.inTransaction = true)
    (underway : Underway start base k P s.world.server) {scope : Scope}
    (done : carry scope.keep s = (.ok (), s₁)) : Sees P s₁ := by
  cases scope with
  | transaction =>
    obtain ⟨s₂, ended, outside, server, only⟩ := outcome_endTransaction held inside "COMMIT"
    have committed := Watch.Clean.commit underway trivial
    have closing : carry (Scope.keep .transaction) s = outcome (endTransaction "COMMIT") s := rfl
    rw [closing, ended] at done
    have same : s₂ = s₁ := congrArg (·.2) done
    subst same
    have sent : (Server.send k "COMMIT" s.world.server).1.mapError
        (fun fault => Failure.statement ⟨"COMMIT", fault⟩) = .ok () := congrArg (·.1) done
    rcases answered : Server.send k "COMMIT" s.world.server with ⟨fault | u, after⟩
    · rw [answered] at sent
      cases sent
    · rw [show Server.send (Watch.ofClient start k).client "COMMIT" s.world.server = _ from answered]
        at committed
      rw [answered] at server
      obtain ⟨⟨t, holds, kept, -⟩, connected, ended, -⟩ := committed
      dsimp only at server
      rw [← server] at kept connected ended
      refine .outside outside (kept ▸ holds.2) fun d own => ?_
      rw [only d own]
      exact ⟨connected, ended⟩
  | savepoint =>
    have releases : Talk.Triple s.connection (Underway start base k P) Scope.release
        (fun _ => (Watch.ofClient start k).Clean fun t => P t.data) (State.Working start k) := by
      refine .perform held inside fun server h => ?_
      rw [legible.adapt_savepoint _ (by simp [savepointStatements])]
      exact run_release h rfl []
    obtain ⟨like, left⟩ := releases s (.refl _) underway
    have closing : carry (Scope.keep .savepoint) s = carry Scope.release s := rfl
    rw [closing] at done
    rw [done] at like left
    obtain ⟨t, transaction, data, sound⟩ := left.inside
    exact .inside (like.inTransaction.trans inside) (like.client?.trans held) left.connected transaction
      sound data

/-- A piece of work in a scope leads from what the connection stands on to what it sees. -/
theorem sees_around {work : Talk α} {Q : α → e.Data → Prop} (stands : Stands P s)
    (works : ∀ (c : Connection) (k : Client) (start : State e) (base : List (String × e.Data)),
      c.client? = some k → c.inTransaction = true → c.rules = s.connection.rules →
      c.lease = s.connection.lease →
      Talk.Triple c (Underway start base k P) work (fun a => Underway start base k (Q a))
        (State.Working start k))
    {a : α} (done : carry (Scope.around work) s = (.ok a, s₁)) : Sees (Q a) s₁ := by
  have entered := entered_enter legible stands
  obtain ⟨scope, s₂, s₃, opened, worked, closed⟩ := Scope.exists_of_carry_around done
  rw [opened] at entered
  obtain ⟨rules, lease, inside, start, base, k, held, underway⟩ := entered
  obtain ⟨like, left⟩ := works _ k start base held inside rules lease s₂ (.refl _) underway
  rw [worked] at like left
  have kin : Legible s₃.connection := by
    obtain ⟨last, connection⟩ := like
    exact legible.congr (by rw [connection, rules]) (by rw [connection, lease])
  exact sees_keep kin (like.client?.trans held) (like.inTransaction.trans inside) left closed

end Tenancy.Schema
