import Tenancy.Connection

/-!
# What is asked of a connection

Procedures on a schema run statements through a connection and look at what comes back; `Request` is
all they can ask for. `Connection.perform` lets a connection answer them one after the other.
-/

namespace Tenancy.Connection

/-- What a procedure asks of a connection. -/
inductive Request where
  /-- Whether a transaction is open. -/
  | inTransaction
  | begin
  | commit
  | rollback
  | execute (sql : String) (parameters : List Parameter)
  | fetchOne (cursor : Cursor)
  | tableExists (name : String)

/-- The type of the answer to a request. -/
def Request.Answer : Request → Type
  | inTransaction => Bool
  | begin | commit | rollback => Unit
  | execute _ _ => Cursor
  | fetchOne _ => Option Row
  | tableExists _ => Bool

/-- The interface of connections. -/
def talking : Interface := ⟨Request, Request.Answer⟩

/-- What is done through a connection. -/
abbrev Talk := Procedure talking

namespace Talk

/-- Asks whether a transaction is open. -/
def inTransaction : Talk Bool := Procedure.request (I := talking) .inTransaction

/-- Asks for a transaction to be opened. -/
def begin : Talk Unit := Procedure.request (I := talking) .begin

/-- Asks for the transaction to be kept. -/
def commit : Talk Unit := Procedure.request (I := talking) .commit

/-- Asks for the transaction to be undone. -/
def rollback : Talk Unit := Procedure.request (I := talking) .rollback

/-- Asks for a statement to be run. -/
def execute (sql : String) (parameters : List Parameter) : Talk Cursor :=
  Procedure.request (I := talking) (.execute sql parameters)

/-- Asks for a statement to be run that has no parameters and whose result is of no interest. -/
def perform (sql : String) : Talk Unit := do let _ ← execute sql []

/-- Asks for the next row of a cursor. -/
def fetchOne (cursor : Cursor) : Talk (Option Row) :=
  Procedure.request (I := talking) (.fetchOne cursor)

/-- Asks whether there is a table. -/
def tableExists (name : String) : Talk Bool :=
  Procedure.request (I := talking) (.tableExists name)

end Talk

variable {σ : Type} [Server σ]

/-- How a connection answers a request. -/
def answer : (r : Request) → Step σ r.Answer
  | .inTransaction => return (← get).connection.inTransaction
  | .begin => begin
  | .commit => commit
  | .rollback => rollback
  | .execute sql parameters => execute sql parameters
  | .fetchOne cursor => within cursor.fetchOne
  | .tableExists name => tableExists name

/-- Carries out a procedure. -/
def perform {α : Type} (p : Talk α) : Step σ α :=
  ExceptT.mk (p.run fun r => (answer r).run)

end Tenancy.Connection
