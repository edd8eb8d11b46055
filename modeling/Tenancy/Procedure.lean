import Tenancy.Failure

/-!
# Procedures

A procedure is done, with a result, or it asks for something and goes on with the answer. As a tree it
holds every course it can take, so that what it asks for can be told without knowing who answers:
`Procedure.run` takes one course, with answers from some monad. A request can fail; the procedure then
goes on with the failure, and `Procedure.attempt` is how one of its parts is kept from ending it.
-/

namespace Tenancy

/-- What can be asked for, and the type of each answer. -/
structure Interface where
  Request : Type
  Answer : Request → Type

/-- A tree of requests. -/
inductive Procedure (I : Interface) (α : Type) where
  | done (result : Except Failure α)
  | ask (request : I.Request) (next : Except Failure (I.Answer request) → Procedure I α)

namespace Procedure
variable {I : Interface} {α β γ : Type}

/-- Goes on with the value of a procedure; its failure stays the failure of the whole. -/
def bind : Procedure I α → (α → Procedure I β) → Procedure I β
  | done (.ok a), f => f a
  | done (.error e), _ => done (.error e)
  | ask r next, f => ask r fun answer => (next answer).bind f

instance : Monad (Procedure I) where
  pure a := done (.ok a)
  bind := bind

/-- Asks for something; a failure ends the procedure. -/
def request (r : I.Request) : Procedure I (I.Answer r) := ask r done

/-- A result that is known. -/
def ofExcept (result : Except Failure α) : Procedure I α := done result

/-- The same requests, with the result as a value, so that a failure ends nothing. -/
def attempt : Procedure I α → Procedure I (Except Failure α)
  | done result => done (.ok result)
  | ask r next => ask r fun answer => (next answer).attempt

/-- Takes one course through a procedure, with every request answered by `answer`. -/
def run {m : Type → Type} [Monad m] (answer : (r : I.Request) → m (Except Failure (I.Answer r))) :
    Procedure I α → m (Except Failure α)
  | done result => pure result
  | ask r next => do
    let a ← answer r
    (next a).run answer

/-- After a value the rest goes on with it. -/
@[simp]
theorem pure_bind (a : α) (f : α → Procedure I β) : (pure a : Procedure I α).bind f = f a := rfl

/-- A procedure that gives its value is itself. -/
@[simp]
theorem bind_pure (p : Procedure I α) : p.bind pure = p := by
  induction p with
  | done result => cases result <;> rfl
  | ask r next ih => simp only [bind, ih]

/-- It makes no difference which of two parts are taken together. -/
theorem bind_assoc (p : Procedure I α) (f : α → Procedure I β) (g : β → Procedure I γ) :
    (p.bind f).bind g = p.bind fun a => (f a).bind g := by
  induction p with
  | done result => cases result <;> rfl
  | ask r next ih => simp only [bind, ih]

instance : LawfulMonad (Procedure I) := .mk' _ bind_pure pure_bind bind_assoc

end Procedure
end Tenancy
