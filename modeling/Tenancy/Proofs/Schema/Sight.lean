import Tenancy.Proofs.Connection.Requests
import Tenancy.Proofs.Pool.Lending
import Tenancy.Proofs.Schema.Atomicity

/-!
# What a connection sees

A connection works on the data of the transaction that it is in, or else on those that are kept: `Sees` is
what is known of them. Statements about data take the connection from one sight to the next wherever it
stands, in a transaction, outside of one or with each statement a transaction of its own (`Sees.execute`);
where nothing stands in the way none of them fails (`Sees.execute_succeeds`).
-/

namespace Tenancy

namespace Engine.State
variable {e : Engine} {s : State e} {k : Client} {sql : String} {ps : List Parameter}

/-- Outside of transactions what a statement about data does is kept. -/
lemma run_outside {Q : Reply → e.Data → Prop} (outside : (s.sessions k).transaction = none)
    (reading : Reading.ofSql sql = .work)
    (effect : Q (e.effect sql ps s.kept).1 (e.effect sql ps s.kept).2) :
    Leaves (fun reply s' => Q reply s'.kept ∧ Fresh k s') (fun _ => True) (Server.run k sql ps s) := by
  rw [run_eq]
  rcases received : s.receive k (.prepared sql (some ps)) (e.misfit sql ps) sql ps with
    ⟨fault | reply, s'⟩
  · trivial
  · obtain ⟨opened, obeys⟩ := obey_of_receive received
    unfold obey at obeys
    rw [sessions_note, outside, reading] at obeys
    cases obeys
    exact ⟨effect, opened, outside⟩

/-- Outside of transactions a statement about data that the engine takes is obeyed. -/
lemma run_outside_accept (fresh : Fresh k s) (reading : Reading.ofSql sql = .work)
    (accept : e.fate s.log.length sql = .accept) (fits : e.misfit sql ps = none) :
    ∃ reply s', Server.run k sql ps s = (.ok reply, s') := by
  have obeyed : (s.note k (.prepared sql (some ps))).obey k sql ps =
      .ok ((e.effect sql ps s.kept).1,
        (s.note k (.prepared sql (some ps))).keep k (e.effect sql ps s.kept).2) := by
    unfold obey
    rw [sessions_note, fresh.outside, reading]
    rfl
  rw [run_eq, fits, receive_accept fresh.connected accept, obeyed]
  exact ⟨_, _, rfl⟩

end Engine.State

namespace Schema
open Connection Engine
variable {e : Engine} {s s₁ : Scene (State e)} {k : Client} {P P' : e.Data → Prop}
  {Q : Reply → e.Data → Prop} {sql : String} {ps : List Parameter}

/-- The data that a connection works on are as `P` says: those of the transaction that it is in, or else
those that are kept; a client that it has is then in no transaction. -/
inductive Sees (P : e.Data → Prop) (s : Scene (State e)) : Prop where
  | outside (flag : s.connection.inTransaction = false) (kept : P s.world.server.kept)
    (fresh : ∀ k, s.connection.client? = some k → State.Fresh k s.world.server)
  | inside {k : Client} {t : Transaction e} (flag : s.connection.inTransaction = true)
    (held : s.connection.client? = some k) (connected : (s.world.server.sessions k).closed = false)
    (transaction : (s.world.server.sessions k).transaction = some t) (sound : t.spoiled = false)
    (data : P t.data)

/-- Outside of transactions no client is in one that the connection can get without logging it in. -/
def Alone (s : Scene (State e)) : Prop :=
  s.connection.inTransaction = false →
    ∀ k, Offers s k → (s.world.server.sessions k).transaction = none

/-- What a connection sees is as `Q` says of a reply, and a cursor has the rows of that reply. -/
def Replies (Q : Reply → e.Data → Prop) (cursor : Cursor) (s : Scene (State e)) : Prop :=
  ∃ reply : Reply, cursor.columns = reply.columns ∧
    s.world.results[cursor.number]? = some (if reply.columns.isEmpty then [] else reply.rows) ∧
    Sees (Q reply) s

/-- Less may be told of what is seen. -/
lemma Sees.mono (h : Sees P s) (imp : ∀ d, P d → P' d) : Sees P' s := by
  cases h with
  | outside flag kept fresh => exact .outside flag (imp _ kept) fresh
  | inside flag held connected transaction sound data =>
    exact .inside flag held connected transaction sound (imp _ data)

/-- There is something that is seen. -/
lemma Sees.exists_data (h : Sees P s) : ∃ d, P d := by
  cases h with
  | outside flag kept fresh => exact ⟨_, kept⟩
  | inside flag held connected transaction sound data => exact ⟨_, data⟩

/-- What a connection sees are certain data. -/
lemma Sees.exists_eq (h : Sees P s) : ∃ d, P d ∧ Sees (· = d) s := by
  cases h with
  | outside flag kept fresh => exact ⟨_, kept, .outside flag rfl fresh⟩
  | inside flag held connected transaction sound data =>
    exact ⟨_, data, .inside flag held connected transaction sound rfl⟩

/-- What is seen is as both of two conditions say. -/
lemma Sees.and (h : Sees P s) (h' : Sees P' s) : Sees (fun d => P d ∧ P' d) s := by
  cases h with
  | outside flag kept fresh =>
    cases h' with
    | outside _ kept' _ => exact .outside flag ⟨kept, kept'⟩ fresh
    | inside flag' =>
      rw [flag] at flag'
      cases flag'
  | inside flag held connected transaction sound data =>
    cases h' with
    | outside flag' =>
      rw [flag] at flag'
      cases flag'
    | inside _ held' _ transaction' _ data' =>
      obtain rfl := Option.some.inj (held.symm.trans held')
      obtain rfl := Option.some.inj (transaction.symm.trans transaction')
      exact .inside flag held connected transaction sound ⟨data, data'⟩

/-- What a connection sees does not depend on its last cursor, nor on rows that are to be fetched. -/
lemma Sees.congr (h : Sees P s) (like : s.connection.Like s₁.connection)
    (server : s₁.world.server = s.world.server) : Sees P s₁ := by
  cases h with
  | outside flag kept fresh =>
    refine .outside (like.inTransaction.trans flag) (server ▸ kept) fun k held => ?_
    rw [server]
    exact fresh k (like.client? ▸ held)
  | inside flag held connected transaction sound data =>
    rw [← server] at connected transaction
    exact .inside (like.inTransaction.trans flag) (like.client?.trans held) connected transaction sound
      data

/-- A statement that was run has a cursor with the rows of its reply. -/
lemma replies_executed {server : State e}
    (sees : ∀ reply server', Server.run k (s.connection.adapt sql) ps server = (.ok reply, server') →
      Sees (Q reply) (ran s k sql ps server)) :
    Leaves (Replies Q) (fun _ => True) (executed s k sql ps server) := by
  unfold executed
  rcases run : Server.run k (s.connection.adapt sql) ps server with ⟨fault | reply, server'⟩
  · trivial
  · refine ⟨reply, rfl, List.getElem?_concat_length, ?_⟩
    exact (sees reply server' run).congr ⟨_, rfl⟩ rfl

section Statement
variable (reading : Reading.ofSql (s.connection.adapt sql) = .work)
  (effect : ∀ d, P d →
    Q (e.effect (s.connection.adapt sql) ps d).1 (e.effect (s.connection.adapt sql) ps d).2)
include reading effect

/-- In a transaction with data as `P` says a statement about data leads to data as `Q` says. -/
lemma replies_inside {start server : State e} (held : s.connection.client? = some k)
    (clean : (Watch.ofClient start k).Clean (fun t => P t.data) server)
    (stays : opens s.connection ∨ s.connection.inTransaction) :
    Leaves (Replies Q) (fun _ => True) (executed s k sql ps server) := by
  have left : Leaves (fun reply => (Watch.ofClient start k).Clean fun t => Q reply t.data)
      ((Watch.ofClient start k).Inside fun _ => True)
      (Server.run k (s.connection.adapt sql) ps server) := by
    refine clean.toInside.run_reply (by rw [reading]; rfl) trivial (fun _ _ => trivial)
      (fun _ _ => trivial) fun t reply t' holds obeyed => ?_
    rw [t.obey_work ps reading] at obeyed
    split at obeyed
    · cases obeyed
    · cases obeyed
      exact effect _ holds
  refine replies_executed fun reply server' run => ?_
  rw [run] at left
  obtain ⟨t, transaction, data, sound⟩ := left.inside
  unfold ran
  rw [run]
  dsimp only
  split
  · exact .inside rfl held left.connected transaction sound data
  · next closed =>
    have flag : s.connection.inTransaction = true := stays.resolve_left closed
    rw [if_pos flag]
    exact .inside flag held left.connected transaction sound data

/-- Where each statement is a transaction of its own it is kept what a statement about data does. -/
lemma replies_outside {server : State e} (held : s.connection.client? = some k)
    (outside : (server.sessions k).transaction = none) (kept : P server.kept)
    (closed : opens s.connection = false) (flag : s.connection.inTransaction = false) :
    Leaves (Replies Q) (fun _ => True) (executed s k sql ps server) := by
  have left : Leaves (fun reply s' => Q reply s'.kept ∧ State.Fresh k s') (fun _ => True)
      (Server.run k (s.connection.adapt sql) ps server) :=
    State.run_outside outside reading (effect _ kept)
  refine replies_executed fun reply server' run => ?_
  rw [run] at left
  obtain ⟨after, fresh⟩ := left
  have scene : ran s k sql ps server = released (Scene.onServer s server') := by
    simp [ran, closed, flag, run]
  rw [scene]
  obtain ⟨s', eq, same, channel, connection⟩ := outcome_release (Scene.onServer s server')
  have goes : released (Scene.onServer s server') = s' := by rw [released, eq]
  have same : (released (Scene.onServer s server')).world.server = server' := by
    rw [goes, same]
    rfl
  refine .outside ?_ (by rwa [same]) fun d has => ?_
  · rw [goes, connection]
    exact flag
  · obtain rfl : d = k := Option.some.inj ((released_client has).symm.trans held)
    rwa [same]

/-- A statement about data leads from what a connection sees to what it sees afterwards. -/
theorem Sees.execute (sees : Sees P s) (alone : Alone s) :
    Leaves (Replies Q) (fun _ => True) (outcome (execute sql ps) s) := by
  cases sees with
  | inside flag held connected transaction sound data =>
    rw [outcome_execute_held held, if_neg (by simp [opens, flag])]
    exact replies_inside reading effect held
      ⟨.refl _, connected, _, transaction, data, sound⟩ (.inr flag)
  | outside flag kept fresh =>
    have permits : Permits fun _ _ => True := ⟨fun _ _ _ => trivial, fun _ _ => trivial⟩
    obtain ⟨since, ⟨channel, connection⟩, held⟩ :=
      obtains_since (F := fun _ _ => False) permits
        (fun k offers t begun => by
          rw [alone flag k offers] at begun
          cases begun)
        fun _ _ => id
    rw [outcome_execute_client]
    rcases got : outcome client s with ⟨failure | k, s'⟩
    · trivial
    · rw [got] at since connection held
      obtain ⟨still, former⟩ := held k rfl
      dsimp only at since connection still former ⊢
      have adapts : s'.connection.adapt = s.connection.adapt := by
        rw [connection]
        rfl
      have flag' : s'.connection.inTransaction = false := by
        rw [connection]
        exact flag
      rw [← adapts] at reading effect
      rw [outcome_execute_held still]
      split
      -- The first statement of a transaction begins it, with the data that are kept.
      · next opened =>
        have begun := since.begin (T := fun t => P t.data) trivial
          (fun t inside => (former t inside).elim) (since.kept ▸ kept)
        rcases sent : Server.send k "BEGIN" s'.world.server with ⟨fault | u, server⟩
        · trivial
        · rw [sent] at begun
          exact replies_inside reading effect still begun (.inl opened)
      · next closed =>
        have outside : (s'.world.server.sessions k).transaction = none :=
          Option.eq_none_iff_forall_ne_some.2 former
        exact replies_outside reading effect still outside (since.kept ▸ kept) (by simpa using closed) flag'

end Statement

/-! ## Where nothing stands in the way -/

/-- A pool can lend a client where a connection needs one outside of transactions. -/
def Lent (s : Scene (State e)) : Prop :=
  s.connection.inTransaction = false → ∀ number, s.connection.channel = .pooled number none →
    Pool.Lends number s.world

/-- The clients of a pool that lends them are in no transaction, and neither is one that is held. -/
lemma Sees.alone (sees : Sees P s) (lent : Lent s) : Alone s := by
  intro flag k offers
  cases sees with
  | inside inside =>
    rw [flag] at inside
    cases inside
  | outside _ _ fresh =>
    rcases offers with held | ⟨number, pool, channel, found, mem⟩
    · exact (fresh k held).outside
    · obtain ⟨pool', found', -, resting⟩ := (lent flag number channel).room
      obtain rfl : pool = pool' := Option.some.inj (found.symm.trans found')
      exact resting k mem

section Statement
variable (reading : Reading.ofSql (s.connection.adapt sql) = .work)
  (fits : e.misfit (s.connection.adapt sql) ps = none)
include reading fits

/-- A statement that the server accepts is executed. -/
lemma executed_accept {start server : State e} {T : Transaction e → Prop} (complies : start.Complies)
    (clean : (Watch.ofClient start k).Clean T server) :
    ∃ cursor s₁, executed s k sql ps server = (.ok cursor, s₁) := by
  have taken : Leaves (fun _ => (Watch.ofClient start k).Clean fun _ => True) (fun _ => False)
      (Server.run k (s.connection.adapt sql) ps server) := by
    refine clean.run_accept (complies.accept clean.toSince _) fits (by rw [reading]; rfl) trivial
      fun t _ sound => ?_
    rw [t.obey_work ps reading, sound]
    exact ⟨_, _, rfl, trivial⟩
  obtain ⟨reply, server', run, -⟩ := taken.succeeds
  unfold executed
  rw [run]
  exact ⟨_, _, rfl⟩

/-- A statement about data succeeds that the engine takes, if there is a client to send it. -/
theorem Sees.execute_succeeds (sees : Sees P s) (complies : s.world.server.Complies) (lent : Lent s) :
    ∃ cursor s₁, outcome (Connection.execute sql ps) s = (.ok cursor, s₁) := by
  cases sees with
  | inside flag held connected transaction sound data =>
    rw [outcome_execute_held held, if_neg (by simp [opens, flag])]
    have clean : (Watch.ofClient s.world.server _).Clean (fun _ => True) s.world.server :=
      ⟨.refl _, connected, _, transaction, trivial, sound⟩
    exact executed_accept reading fits complies clean
  | outside flag kept fresh =>
    have ready : Ready s := ⟨complies, fresh, lent flag⟩
    have obtains : Leaves (fun k s' => State.Since (fun _ _ => True) s.world.server s'.world.server ∧
        State.Fresh k s'.world.server) (fun _ => False) (outcome Connection.client s) :=
      ready.client fun _ _ => trivial
    obtain ⟨k, s', got, since, fresh'⟩ := obtains.succeeds
    obtain ⟨still, channel, connection⟩ := exists_of_client got
    have adapts : s'.connection.adapt = s.connection.adapt := by
      rw [connection]
      rfl
    rw [← adapts] at reading fits
    rw [outcome_execute_client, got]
    dsimp only
    rw [outcome_execute_held still]
    split
    · obtain ⟨u, server, sent, begun⟩ := (State.begin_fresh complies since fresh' trivial).succeeds
      rw [sent]
      exact executed_accept reading fits complies begun
    · obtain ⟨reply, server, run⟩ :=
        State.run_outside_accept fresh' reading (complies.accept since _) fits
      unfold executed
      rw [run]
      exact ⟨_, _, rfl⟩

end Statement
end Schema
end Tenancy
