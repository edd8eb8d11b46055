import Tenancy.Proofs.Connection.Ends
import Tenancy.Proofs.Server.Compliance

/-!
# Getting a client from a pool

A pool lends a client if it has room for one more and the engine admits a new one where none is at rest
(`Pool.Lends.take`). With a client, and an engine that takes everything, a transaction can be begun
(`Connection.Ready.begin`).
-/

namespace Tenancy

namespace Pool
open Engine
variable {e : Engine} {number : Nat} {w : World (State e)}

/-- A pool can lend a client that is in no transaction: it has room for one more, and if none is at rest
the engine admits a new one. -/
structure Lends (number : Nat) (w : World (State e)) : Prop where
  room : ∃ pool, w.pools[number]? = some pool ∧ pool.lent < pool.max ∧
    ∀ k ∈ pool.idle, (w.server.sessions k).transaction = none
  admits : ∀ l, e.admits w.server.attempts l

/-- A pool that lends gives a client without a transaction, and nothing is kept. -/
lemma Lends.take (h : Lends number w) (admits : Client → Received → Prop) :
    Leaves (fun k w' => State.Since admits w.server w'.server ∧ State.Fresh k w'.server)
      (fun _ => False) (Action.outcome (Pool.take number) w) := by
  obtain ⟨p, found, room, resting⟩ := h.room
  rw [Pool.take, Action.outcome_bind, Pool.outcome_get?, found]
  simp only [Nat.not_le.2 room, ↓reduceIte, Action.outcome_bind, Action.outcome_get]
  -- Clients at rest that were closed are dropped; without any other a new one is logged in.
  cases rests : Pool.dropClosed p.idle w.server with
  | cons k idle =>
    have mem : k ∈ p.idle := by
      have sublist : (Pool.dropClosed p.idle w.server).Sublist p.idle := List.dropWhile_sublist _
      refine sublist.subset ?_
      rw [rests]
      exact List.mem_cons_self
    have connected : (w.server.sessions k).closed = false := by
      have head := List.head?_dropWhile_not (fun c => Server.isClosed c w.server) p.idle
      rw [show p.idle.dropWhile (fun c => Server.isClosed c w.server) = k :: idle from rests] at head
      have stays : Server.isClosed k w.server = false := by simpa using head
      exact stays
    simp only [Action.outcome_bind, Pool.outcome_update]
    exact ⟨.refl _, connected, resting k mem⟩
  | nil =>
    have logged : Server.logIn (p.address.login p.tls) w.server =
        (some ⟨w.server.attempts + 1⟩,
          { w.server with attempts := w.server.attempts + 1 }.setSession ⟨w.server.attempts + 1⟩ {}) := by
      change State.logIn _ _ = _
      rw [State.logIn]
      dsimp only
      rw [if_pos (h.admits _)]
    simp only [Action.outcome_bind, Pool.outcome_update, Pool.outcome_openClient, logged,
      Option.elim_some]
    exact ⟨⟨⟨rfl, rfl⟩, [], rfl, by simp⟩, by simp, by simp⟩

end Pool

namespace Connection
open Engine
variable {e : Engine} {s : Scene (State e)}

/-- Nothing stands in the way of a transaction: the engine takes every statement, and there is a client
that is in no transaction, or one can be got from a pool. -/
structure Ready (s : Scene (State e)) : Prop where
  complies : s.world.server.Complies
  fresh : ∀ k, s.connection.client? = some k → State.Fresh k s.world.server
  lends : ∀ number, s.connection.channel = .pooled number none → Pool.Lends number s.world

namespace Ready
variable (h : Ready s)
include h

/-- So a connection of the pool gets one. -/
lemma client {admits : Client → Received → Prop}
    (setSchema : ∀ k (name : String), admits k (.simple s!"SET search_path TO {name}")) :
    Leaves (fun k s' => State.Since admits s.world.server s'.world.server ∧
        State.Fresh k s'.world.server)
      (fun _ => False) (outcome Connection.client s) := by
  obtain ⟨c, w⟩ := s
  have held {k : Client} (hk : c.client? = some k) :
      Leaves (fun k s' => State.Since admits w.server s'.world.server ∧
        State.Fresh k s'.world.server) (fun _ => False) (outcome Connection.client ⟨c, w⟩) := by
    rw [outcome_client (s := ⟨c, w⟩) hk]
    exact ⟨.refl _, h.fresh k hk⟩
  cases channel : c.channel with
  | direct k => exact held (by rw [client?, channel])
  | pooled number some =>
    cases some with
    | some k => exact held (by rw [client?, channel])
    | none =>
      have taken := (h.lends number channel).take admits
      rw [Connection.client, outcome_bind, outcome_get]
      simp only [channel, outcome_bind, outcome_within]
      rcases eq : Action.outcome (Pool.take number) w with ⟨failure | k, w'⟩
      · rw [eq] at taken
        exact taken.elim
      · rw [eq] at taken
        obtain ⟨since, fresh⟩ := taken
        -- A client that was just taken is told where to look for tables.
        cases schema : c.address.schema? with
        | none => exact ⟨since, fresh⟩
        | some name =>
          have told := State.setSchema_fresh h.complies since fresh
            (setSchema k (String.ofList (Sql.quoteName name.toList)))
          simp only [outcome_bind, outcome_attempt, outcome_within, Client.setSchema,
            Client.outcome_send]
          rcases eq : Server.send k _ w'.server with ⟨fault | u, server⟩
          · rw [eq] at told
            exact told.elim
          · rw [eq] at told
            exact told

/-- A transaction is begun with the data that are kept. -/
lemma begin (admits : Client → Received → Prop)
    (setSchema : ∀ k (name : String), admits k (.simple s!"SET search_path TO {name}"))
    (command : ∀ k, admits k (.simple "BEGIN")) (outside : s.connection.inTransaction = false) :
    Leaves
      (fun _ s₁ => (∃ channel, s₁.connection = { s.connection with channel, inTransaction := true }) ∧
        ∃ k, s₁.connection.client? = some k ∧ (∀ d, s.connection.client? = some d → d = k) ∧
          (⟨s.world.server, k, admits⟩ : Watch e).Clean (· = { data := s.world.server.kept })
            s₁.world.server)
      (fun _ => False) (outcome Connection.begin s) := by
  have got := h.client setSchema
  rw [outcome_begin outside]
  rcases eq : outcome Connection.client s with ⟨failure | k, s'⟩
  · rw [eq] at got
    exact got.elim
  · rw [eq] at got
    obtain ⟨since, fresh⟩ := got
    obtain ⟨held, channel, connection⟩ := exists_of_client eq
    have own (d : Client) (has : s.connection.client? = some d) : d = k := by
      rw [outcome_client has] at eq
      cases eq
      rfl
    have begun := State.begin_fresh h.complies since fresh (command k)
    dsimp only
    rcases sent : Server.send k "BEGIN" s'.world.server with ⟨fault | u, server⟩
    · rw [sent] at begun
      exact begun.elim
    · rw [sent] at begun
      refine ⟨⟨channel, ?_⟩, k, held, own, begun⟩
      dsimp only
      rw [connection]

end Ready
end Connection
end Tenancy
