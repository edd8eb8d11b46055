import Tenancy.Proofs.Connection.Ends
import Tenancy.Proofs.Schema.Scope
import Tenancy.Proofs.Schema.Upkeep
import Tenancy.Proofs.Server.Watch

/-!
# Work in a transaction of its own

Where no transaction is open, a scope begins one and ends it. `around_triple` follows a piece of work
through it: if each client that the connection can have is watched from a transaction with the property
`T` on, then what is kept in the end is either a transaction as the work leaves it or nothing at all.
`around_spec` is about work that maintains the property.
-/

namespace Tenancy.Schema
open Connection Engine
variable {e : Engine} {α : Type} {admits : Client → Received → Prop} {s₀ s : Scene (State e)}
  {T : Transaction e → Prop}

/-- The statements around the work may be received from every client. -/
structure Permits (admits : Client → Received → Prop) : Prop where
  command : ∀ k, ∀ sql ∈ ["BEGIN", "COMMIT", "ROLLBACK"], admits k (.simple sql)
  setSchema : ∀ k (name : String), admits k (.simple s!"SET search_path TO {name}")

/-- Getting a client keeps nothing and begins no transaction. If it has one open of which nothing matters
but what a spoiled one has as well, that is still so. -/
lemma obtains_since {F : Client → Transaction e → Prop} (permits : Permits admits)
    (former : ∀ k, Offers s k → ∀ t, (s.world.server.sessions k).transaction = some t → F k t)
    (spoil : ∀ k t, F k t → F k { t with spoiled := true }) :
    Obtains (State.Since admits s.world.server)
      (fun k server => ∀ t, (server.sessions k).transaction = some t → F k t) s.connection
      (outcome client s) := by
  refine obtains_client (fun l server h => ⟨h.logIn l, fun k got t inside => ?_⟩)
    (fun k name server h former => ⟨h.setSchema (permits.setSchema k name), fun t' inside => ?_⟩)
    s (.refl _) former
  · change (State.logIn l server).1 = some k at got
    change ((State.logIn l server).2.sessions k).transaction = some t at inside
    unfold State.logIn at got inside
    split at got
    · next admitted =>
      cases got
      rw [if_pos admitted, State.sessions_setSession] at inside
      cases inside
    · cases got
  · obtain ⟨t, begun, rfl | rfl⟩ := State.exists_of_setSchema inside
    · exact former _ begun
    · exact spoil k _ (former t begun)

/-- A transaction can be begun that has the property `T`: a new one has it, and so has one that a client
has open without the connection's knowledge. Being spoiled does not matter. -/
structure Prepared (T : Transaction e → Prop) (s : Scene (State e)) : Prop where
  new : T { data := s.world.server.kept }
  former : ∀ k, Offers s k → ∀ t, (s.world.server.sessions k).transaction = some t → T t
  spoil : ∀ t, T t → T { t with spoiled := true }

/-- Beginning a transaction keeps nothing, and if it succeeds the client is watched from then on. -/
lemma enter_spec (closed : s.connection.inTransaction = false) (permits : Permits admits)
    (prepared : Prepared T s) :
    Leaves
      (fun scope s₁ => scope = .transaction ∧
        (∃ channel, s₁.connection = { s.connection with channel, inTransaction := true }) ∧
        ∃ k, s₁.connection.client? = some k ∧
          (⟨s.world.server, k, admits⟩ : Watch e).Clean T s₁.world.server)
      (fun s₁ => s₁.connection.inTransaction = false ∧
        State.Since admits s.world.server s₁.world.server)
      (carry Scope.enter s) := by
  obtain ⟨since, ⟨channel, connection⟩, held⟩ :=
    obtains_since (F := fun _ => T) permits prepared.former fun _ => prepared.spoil
  rw [Scope.carry_enter_outside closed, outcome_begin closed]
  rcases got : outcome client s with ⟨failure | k, s₁⟩
  · rw [got] at since connection
    refine ⟨?_, since⟩
    rw [connection]
    exact closed
  · rw [got] at since connection held
    obtain ⟨still, former⟩ := held k rfl
    dsimp only at since connection still former ⊢
    have begun := since.begin (permits.command k "BEGIN" (by simp)) former (since.kept ▸ prepared.new)
    rcases sent : Server.send k "BEGIN" s₁.world.server with ⟨fault | u, server⟩
    · rw [sent] at begun
      refine ⟨?_, begun⟩
      dsimp only
      rw [connection]
      exact closed
    · rw [sent] at begun
      refine ⟨rfl, ⟨channel, ?_⟩, k, still, begun⟩
      dsimp only
      rw [connection]

/-- Work in a transaction of its own: what is kept if it succeeds is a transaction as the work leaves it,
and if it fails nothing is kept. -/
theorem around_triple (closed : s.connection.inTransaction = false) (permits : Permits admits)
    (prepared : Prepared T s) {work : Talk α} {U : α → Transaction e → Prop}
    {V : Transaction e → Prop}
    (works : ∀ (c : Connection) (k : Client),
      (∃ channel, c = { s.connection with channel, inTransaction := true }) → c.client? = some k →
      Talk.Triple c ((⟨s.world.server, k, admits⟩ : Watch e).Clean T) work
        (fun a => (⟨s.world.server, k, admits⟩ : Watch e).Clean (U a))
        ((⟨s.world.server, k, admits⟩ : Watch e).Inside V)) :
    (carry (Scope.around work) s).2.connection.inTransaction = false ∧
      Leaves
        (fun a s₁ => ∃ k, (⟨s.world.server, k, admits⟩ : Watch e).Committed (U a) s₁.world.server ∧
          ∀ d, s₁.connection.client? = some d → d = k)
        (fun s₁ => State.Since admits s.world.server s₁.world.server)
        (carry (Scope.around work) s) := by
  have entered := enter_spec closed permits prepared
  rw [Scope.carry_around]
  rcases opened : carry Scope.enter s with ⟨failure | scope, s₁⟩
  · rw [opened] at entered
    exact entered
  · rw [opened] at entered
    obtain ⟨rfl, channel, k, held, clean⟩ := entered
    have inside : s₁.connection.inTransaction = true := by
      obtain ⟨channel, connection⟩ := channel
      rw [connection]
    obtain ⟨like, left⟩ := works _ k channel held s₁ (.refl _) clean
    dsimp only
    -- A failure of the work is undone, whatever comes of undoing it; otherwise all hangs on the commit.
    rcases carried : carry work s₁ with ⟨failure | a, s₂⟩
    · rw [carried] at like left
      obtain ⟨s₃, ended, outside, server, -⟩ := outcome_endTransaction
        (like.client?.trans held) (like.inTransaction.trans inside) "ROLLBACK"
      have undone := Watch.Inside.rollback left (permits.command k "ROLLBACK" (by simp))
      dsimp only at undone
      rw [← server] at undone
      have closing : carry (Scope.transaction.undo) s₂ = outcome (endTransaction "ROLLBACK") s₂ := rfl
      dsimp only
      rw [closing, ended]
      exact ⟨outside, undone⟩
    · rw [carried] at like left
      obtain ⟨s₃, ended, outside, server, only⟩ := outcome_endTransaction
        (like.client?.trans held) (like.inTransaction.trans inside) "COMMIT"
      have committed := Watch.Clean.commit left (permits.command k "COMMIT" (by simp))
      have closing : carry (Scope.transaction.keep) s₂ = outcome (endTransaction "COMMIT") s₂ := rfl
      dsimp only
      rw [closing, ended]
      refine ⟨outside, ?_⟩
      rcases sent : Server.send k "COMMIT" s₂.world.server with ⟨fault | u, after⟩
      · rw [sent] at committed server
        change State.Since admits s.world.server s₃.world.server
        rw [server]
        exact committed
      · rw [sent] at committed server
        refine ⟨k, ?_, only⟩
        rw [server]
        exact committed

/-- Work in a transaction of its own: if it succeeds then what is kept is a transaction with the property
that the work maintains, and if it fails then nothing. -/
theorem around_spec (closed : s.connection.inTransaction = false) (permits : Permits admits)
    (prepared : Prepared T s) {work : Talk α}
    (steady : ∀ (c : Connection) (k : Client),
      (∃ channel, c = { s.connection with channel, inTransaction := true }) → c.client? = some k →
      Talk.Steady c ((⟨s.world.server, k, admits⟩ : Watch e).Clean T)
        ((⟨s.world.server, k, admits⟩ : Watch e).Inside T) work) :
    (carry (Scope.around work) s).2.connection.inTransaction = false ∧
      Leaves
        (fun _ server => ∃ k, (⟨s.world.server, k, admits⟩ : Watch e).Committed T server)
        (State.Since admits s.world.server)
        ((carry (Scope.around work) s).1, (carry (Scope.around work) s).2.world.server) := by
  obtain ⟨outside, leaves⟩ := around_triple closed permits prepared steady
  refine ⟨outside, ?_⟩
  rcases done : carry (Scope.around work) s with ⟨failure | a, s₁⟩
  · rw [done] at leaves
    exact leaves
  · rw [done] at leaves
    obtain ⟨k, committed, -⟩ := leaves
    exact ⟨k, committed⟩

end Tenancy.Schema
