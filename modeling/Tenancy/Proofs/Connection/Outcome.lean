import Mathlib.Tactic.Lemma
import Tenancy.Connection

/-!
# Outcomes of actions and steps

An action takes a world to a result and a world, a step does so with a scene. `Action.outcome` and
`Connection.outcome` are these functions, and there is an equation for each way in which actions and
steps are put together, so that no proof has to look into the monads they are made of.
-/

namespace Tenancy
variable {σ : Type} {α β : Type}

/-- Whether things are as `Q` says of the value after a success, and as `R` says after a failure. -/
def Leaves {ε : Type} (Q : α → σ → Prop) (R : σ → Prop) : Except ε α × σ → Prop
  | (.ok a, s) => Q a s
  | (.error _, s) => R s

/-- Less may be told of an outcome. -/
lemma Leaves.mono {ε : Type} {Q Q' : α → σ → Prop} {R R' : σ → Prop} {o : Except ε α × σ}
    (h : Leaves Q R o) (ok : ∀ a s, Q a s → Q' a s) (error : ∀ s, R s → R' s) :
    Leaves Q' R' o := by
  rcases o with ⟨e | a, s⟩
  · exact error s h
  · exact ok a s h

/-- An outcome that cannot be a failure is a value. -/
lemma Leaves.succeeds {ε : Type} {Q : α → σ → Prop} {o : Except ε α × σ}
    (h : Leaves Q (fun _ => False) o) : ∃ a s, o = (.ok a, s) ∧ Q a s := by
  rcases o with ⟨e | a, s⟩
  · exact h.elim
  · exact ⟨a, s, rfl, h⟩

/-- What is so of both exits is so in any case. -/
lemma Leaves.always {ε : Type} {P : σ → Prop} {o : Except ε α × σ} (h : Leaves (fun _ => P) P o) :
    P o.2 := by
  rcases o with ⟨e | a, s⟩
  · exact h
  · exact h

/-- A value stays, whatever becomes of failures. -/
@[simp]
lemma mapError_ok {ε ε' : Type} (f : ε → ε') (a : α) : (Except.ok a : Except ε α).mapError f = .ok a := rfl

/-- A failure becomes what is made of it. -/
@[simp]
lemma mapError_error {ε ε' : Type} (f : ε → ε') (e : ε) :
    (Except.error e : Except ε α).mapError f = .error (f e) := rfl

namespace Action

/-- The result of an action and the world after it. -/
def outcome (a : Action σ α) (w : World σ) : Except Failure α × World σ := a.run.run w

/-- A value is given in the same world. -/
@[simp]
lemma outcome_pure (x : α) (w : World σ) : outcome (pure x) w = (.ok x, w) := rfl

/-- A failure is given in the same world. -/
@[simp]
lemma outcome_throw (e : Failure) (w : World σ) :
    outcome (throw e : Action σ α) w = (.error e, w) := rfl

/-- After a value the next action goes on, and after a failure none does. -/
@[simp]
lemma outcome_bind (a : Action σ α) (f : α → Action σ β) (w : World σ) :
    outcome (a >>= f) w =
      match outcome a w with
      | (.ok x, w') => outcome (f x) w'
      | (.error e, w') => (.error e, w') := by
  rw [outcome, ExceptT.run_bind, StateT.run_bind]
  show (outcome a w >>= _ : Id _) = _
  rcases outcome a w with ⟨_ | _, _⟩ <;> rfl

/-- What is made of a value changes nothing else. -/
@[simp]
lemma outcome_map (f : α → β) (a : Action σ α) (w : World σ) :
    outcome (f <$> a) w = ((outcome a w).1.map f, (outcome a w).2) := by
  rw [map_eq_pure_bind, outcome_bind]
  rcases outcome a w with ⟨_ | _, _⟩ <;> rfl

/-- The world itself can be looked at. -/
@[simp]
lemma outcome_get (w : World σ) : outcome (get : Action σ (World σ)) w = (.ok w, w) := rfl

/-- It can be replaced. -/
@[simp]
lemma outcome_set (w w' : World σ) : outcome (set w' : Action σ PUnit) w = (.ok ⟨⟩, w') := rfl

/-- It can be changed. -/
@[simp]
lemma outcome_modify (f : World σ → World σ) (w : World σ) :
    outcome (modify f : Action σ PUnit) w = (.ok ⟨⟩, f w) := rfl

/-- What a server does leaves the rest of the world alone. -/
@[simp]
lemma outcome_served (f : σ → α × σ) (w : World σ) :
    outcome (served f) w = (.ok (f w.server).1, { w with server := (f w.server).2 }) := rfl

end Action

namespace Client
variable [Server σ]
open Tenancy.Action

/-- A statement without parameters goes to the server, and what it says is the result. -/
lemma outcome_send (k : Client) (sql : String) (w : World σ) :
    outcome (k.send sql) w =
      ((Server.send k sql w.server).1.mapError fun fault => .statement ⟨sql, fault⟩,
        { w with server := (Server.send k sql w.server).2 }) := by
  rw [send, outcome_bind, outcome_served]
  rcases Server.send k sql w.server with ⟨_ | _, _⟩ <;> rfl

/-- A statement with parameters goes to the server, and what it says is the result. -/
lemma outcome_run (k : Client) (sql : String) (ps : List Parameter) (w : World σ) :
    outcome (k.run sql ps) w =
      ((Server.run k sql ps w.server).1.mapError fun fault => .statement ⟨sql, fault⟩,
        { w with server := (Server.run k sql ps w.server).2 }) := by
  rw [run, outcome_bind, outcome_served]
  rcases Server.run k sql ps w.server with ⟨_ | _, _⟩ <;> rfl

end Client

namespace Connection

/-- The result of a step and the scene after it. -/
def outcome (a : Step σ α) (s : Scene σ) : Except Failure α × Scene σ := a.run.run s

/-- A value is given in the same scene. -/
@[simp]
lemma outcome_pure (x : α) (s : Scene σ) : outcome (pure x) s = (.ok x, s) := rfl

/-- A failure is given in the same scene. -/
@[simp]
lemma outcome_throw (e : Failure) (s : Scene σ) :
    outcome (throw e : Step σ α) s = (.error e, s) := rfl

/-- After a value the next step goes on, and after a failure none does. -/
@[simp]
lemma outcome_bind (a : Step σ α) (f : α → Step σ β) (s : Scene σ) :
    outcome (a >>= f) s =
      match outcome a s with
      | (.ok x, s') => outcome (f x) s'
      | (.error e, s') => (.error e, s') := by
  rw [outcome, ExceptT.run_bind, StateT.run_bind]
  show (outcome a s >>= _ : Id _) = _
  rcases outcome a s with ⟨_ | _, _⟩ <;> rfl

/-- What is made of a value changes nothing else. -/
@[simp]
lemma outcome_map (f : α → β) (a : Step σ α) (s : Scene σ) :
    outcome (f <$> a) s = ((outcome a s).1.map f, (outcome a s).2) := by
  rw [map_eq_pure_bind, outcome_bind]
  rcases outcome a s with ⟨_ | _, _⟩ <;> rfl

/-- The scene itself can be looked at. -/
@[simp]
lemma outcome_get (s : Scene σ) : outcome (get : Step σ (Scene σ)) s = (.ok s, s) := rfl

/-- A result that is known changes nothing. -/
@[simp]
lemma outcome_mk (result : Except Failure α) (s : Scene σ) :
    outcome (ExceptT.mk (pure result) : Step σ α) s = (result, s) := rfl

/-- A change of the connection leaves the world alone. -/
@[simp]
lemma outcome_change (f : Connection → Connection) (s : Scene σ) :
    outcome (change f) s = (.ok (), { s with connection := f s.connection }) := rfl

/-- What is done in the world leaves the connection alone. -/
@[simp]
lemma outcome_within (a : Action σ α) (s : Scene σ) :
    outcome (within a) s =
      ((Action.outcome a s.world).1, { s with world := (Action.outcome a s.world).2 }) := rfl

/-- An attempt fails never, and leaves what the step leaves. -/
@[simp]
lemma outcome_attempt (a : Step σ α) (s : Scene σ) :
    outcome (attempt a) s = (.ok (outcome a s).1, (outcome a s).2) := rfl

end Connection
end Tenancy
