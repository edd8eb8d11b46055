import Tenancy.Proofs.Schema.Decision

/-!
# Upkeep that is done a second time

After the upkeep of a schema has succeeded there is nothing left to do: the same upkeep of the same
connection finds the schema up to date and changes no data (`ensure_idempotent`). The first run leaves the
schema settled, and a settled schema gives the second one no cause to write.
-/

namespace Tenancy.Schema
open Connection Engine
variable {e : Engine}

/-- Upkeep that is done a second time does nothing, whatever the first time it found and whatever the engine
refused then, if it succeeded: provided that the engine takes every statement from then on, and has a
client in no transaction where a pool is to lend one, the schema is up to date and no data change. -/
theorem ensure_idempotent (site : Site) (s s₁ : Scene (State e)) (ledger : e.Ledger)
    (legible : Legible s.connection) {result : Outcome}
    (first : carry site.ensure s = (.ok result, s₁)) (complies : s₁.world.server.Complies)
    (lends : s₁.connection.inTransaction = false → ∀ number,
      s₁.connection.channel = .pooled number none → Pool.Lends number s₁.world) :
    ∃ s₂, carry site.ensure s₁ = (.ok .upToDate, s₂) ∧ Unchanged s₁ s₂ := by
  have kin : s.connection.Kin s₁.connection := by
    have kept := Kin.carry site.ensure s
    rwa [first] at kept
  exact ensure_settled complies lends (legible.congr kin.rules kin.lease)
    (sees_settled legible ledger first)

/-- The upkeep of a tenant's schema is done twice, with documents and without them, where it creates the
schema the first time and where it upgrades it. -/
theorem ensure_idempotent_ada :
    let Twice (documents : Bool) (d : Database) (outcome : Outcome) : Prop :=
      let s := adaOn documents d
      let site := s.connection.site "Ada"
      Legible s.connection ∧ ∃ s₁, carry site.ensure s = (.ok outcome, s₁) ∧
        s₁.world.server.Complies ∧
        (s₁.connection.inTransaction = false → ∀ number,
          s₁.connection.channel = .pooled number none → Pool.Lends number s₁.world) ∧
        ∃ s₂, carry site.ensure s₁ = (.ok .upToDate, s₂) ∧ Unchanged s₁ s₂
    (Twice true {} .created ∧ Twice false {} .created) ∧
      Twice true unversioned (.upgraded 0) ∧ Twice false unversioned (.upgraded 0) := by
  intro Twice
  have twice {documents : Bool} {d : Database} {outcome : Outcome}
      (first : ∃ s₁, carry ((ada documents).site "Ada").ensure (adaOn documents d) =
        (.ok outcome, s₁)) : Twice documents d outcome := by
    obtain ⟨s₁, first⟩ := first
    have legible : Legible (ada documents) := (lucid_ada documents).toLegible
    have kin : (ada documents).Kin s₁.connection := by
      have kept := Kin.carry ((ada documents).site "Ada").ensure (adaOn documents d)
      rwa [first] at kept
    have complies : s₁.world.server.Complies := fun _ _ _ => rfl
    have lends (_ : s₁.connection.inTransaction = false) (number : Nat)
        (pooled : s₁.connection.channel = .pooled number none) : Pool.Lends number s₁.world := by
      rw [kin.direct ⟨1⟩ rfl] at pooled
      cases pooled
    exact ⟨legible, s₁, first, complies, lends,
      ensure_idempotent _ _ s₁ (databaseLedger _) legible first complies lends⟩
  exact ⟨⟨twice (created_ada true), twice (created_ada false)⟩,
    twice (upgraded_ada true), twice (upgraded_ada false)⟩

end Tenancy.Schema
