import Tenancy.Proofs.Connection.Ends
import Tenancy.Schema.Scope

/-!
# Carrying out work in a scope

`carry_around` follows a piece of work through its scope: what closes the scope depends on how the work
ended, and a failure of the work stays the failure of the whole. Which scope it is depends on whether a
transaction is open: `carry_enter_outside` and `carry_enter_inside`.
-/

namespace Tenancy.Schema.Scope
open Connection
variable {σ : Type} [Server σ] {α : Type}

/-- Outside of a transaction a scope opens one. -/
lemma carry_enter_outside {s : Scene σ} (ht : s.connection.inTransaction = false) :
    carry enter s = ((outcome begin s).1.map fun _ => transaction, (outcome begin s).2) := by
  rw [enter, carry_bind, carry_inTransaction]
  dsimp only
  rw [ht, if_neg Bool.false_ne_true, carry_bind, carry_begin]
  rcases outcome begin s with ⟨e | u, s'⟩
  · rfl
  · rfl

/-- In a transaction it sets a savepoint. -/
lemma carry_enter_inside {s : Scene σ} (ht : s.connection.inTransaction = true) :
    carry enter s =
      ((carry (Talk.perform s!"SAVEPOINT {savepointName}") s).1.map fun _ => savepoint,
        (carry (Talk.perform s!"SAVEPOINT {savepointName}") s).2) := by
  rw [enter, carry_bind, carry_inTransaction]
  dsimp only
  rw [ht, if_pos rfl, carry_bind]
  rcases carry (Talk.perform s!"SAVEPOINT {savepointName}") s with ⟨e | u, s'⟩
  · rfl
  · rfl

/-- Work in a scope that is kept if the work succeeds, and undone if it fails. -/
theorem carry_around (work : Talk α) (s : Scene σ) :
    carry (around work) s =
      match carry enter s with
      | (.error e, s₁) => (.error e, s₁)
      | (.ok scope, s₁) =>
        match carry work s₁ with
        | (.ok a, s₂) => ((carry scope.keep s₂).1.map fun _ => a, (carry scope.keep s₂).2)
        | (.error e, s₂) => (.error e, (carry scope.undo s₂).2) := by
  rw [around, carry_bind]
  rcases carry enter s with ⟨e | scope, s₁⟩
  · rfl
  · dsimp only
    rw [carry_bind, carry_attempt]
    rcases carry work s₁ with ⟨e | a, s₂⟩
    · dsimp only
      rw [carry_bind, carry_attempt]
      rfl
    · dsimp only
      rw [carry_bind]
      rcases carry scope.keep s₂ with ⟨e | u, s₃⟩
      · rfl
      · rfl

/-- Work in a scope that succeeds is work that succeeds between the opening of the scope and its closing. -/
theorem exists_of_carry_around {work : Talk α} {s s₁ : Scene σ} {a : α}
    (done : carry (around work) s = (.ok a, s₁)) :
    ∃ scope s₂ s₃, carry enter s = (.ok scope, s₂) ∧ carry work s₂ = (.ok a, s₃) ∧
      carry scope.keep s₃ = (.ok (), s₁) := by
  rw [carry_around] at done
  rcases entered : carry enter s with ⟨e | scope, s₂⟩
  · rw [entered] at done
    cases done
  · rw [entered] at done
    dsimp only at done
    rcases worked : carry work s₂ with ⟨e | b, s₃⟩
    · rw [worked] at done
      cases done
    · rw [worked] at done
      dsimp only at done
      rcases closed : carry scope.keep s₃ with ⟨e | u, s₄⟩
      · rw [closed] at done
        cases done
      · rw [closed] at done
        cases done
        exact ⟨scope, s₂, s₃, rfl, worked, closed⟩

/-- Inside a transaction a scope is entered by the client that is got for it, as if it had been held. -/
lemma carry_enter_client {s : Scene σ} (ht : s.connection.inTransaction = true) :
    carry enter s =
      match outcome client s with
      | (.error e, s') => (.error e, s')
      | (.ok _, s') => carry enter s' := by
  have performs : carry (Talk.perform s!"SAVEPOINT {savepointName}") s =
      match outcome client s with
      | (.error e, s') => (.error e, s')
      | (.ok _, s') => carry (Talk.perform s!"SAVEPOINT {savepointName}") s' := by
    simp only [Talk.perform, carry_bind, carry_execute, outcome_execute_client s]
    rcases outcome client s with ⟨e | k, s'⟩
    · rfl
    · rfl
  rw [carry_enter_inside ht, performs]
  rcases got : outcome client s with ⟨e | k, s'⟩
  · rfl
  · obtain ⟨-, channel, connection⟩ := exists_of_client got
    dsimp only
    rw [carry_enter_inside (by rw [connection]; exact ht)]

/-- So is the work in it done. -/
lemma carry_around_client {s : Scene σ} (ht : s.connection.inTransaction = true) (work : Talk α) :
    carry (around work) s =
      match outcome client s with
      | (.error e, s') => (.error e, s')
      | (.ok _, s') => carry (around work) s' := by
  rw [carry_around, carry_enter_client ht]
  rcases outcome client s with ⟨e | k, s'⟩
  · rfl
  · dsimp only
    rw [carry_around]

end Tenancy.Schema.Scope
