import Tenancy.Connection.Request

/-!
# Scopes

Work on a schema is done as a whole or not at all. Where no transaction is open it has one of its own;
inside the caller's transaction it has a savepoint, so that the caller's transaction goes on either way.
-/

namespace Tenancy.Schema
open Connection

/-- What holds a piece of work together. -/
inductive Scope where
  | transaction
  | savepoint
  deriving DecidableEq, Repr

namespace Scope

/-- The savepoint around a piece of work. -/
def savepointName : String := "pgtenant_schema"

/-- Opens a scope. -/
def enter : Talk Scope := do
  if ← Talk.inTransaction then
    Talk.perform s!"SAVEPOINT {savepointName}"
    return savepoint
  else
    Talk.begin
    return transaction

/-- Forgets the savepoint. -/
def release : Talk Unit := Talk.perform s!"RELEASE SAVEPOINT {savepointName}"

/-- Undoes what was done since the savepoint, and forgets it. -/
def undoSavepoint : Talk Unit := do
  Talk.perform s!"ROLLBACK TO SAVEPOINT {savepointName}"
  release

/-- Closes a scope: what was done is kept. -/
def keep : Scope → Talk Unit
  | transaction => Talk.commit
  | savepoint => release

/-- Closes a scope: what was done is undone. -/
def undo : Scope → Talk Unit
  | transaction => Talk.rollback
  | savepoint => undoSavepoint

/-- Does a piece of work inside a scope. If the work fails, its failure is what counts, even if it
cannot be undone. -/
def around {α : Type} (work : Talk α) : Talk α := do
  let scope ← enter
  match ← work.attempt with
  | .ok a =>
    scope.keep
    return a
  | .error failure =>
    let _ ← scope.undo.attempt
    .ofExcept (.error failure)

end Scope
end Tenancy.Schema
