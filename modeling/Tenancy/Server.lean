import Tenancy.Address
import Tenancy.Cell

/-!
# Servers

What a database server does for its clients. A server is a type of states and five operations on them,
so that everything above holds of any server: the class says nothing of how statements are answered.
-/

namespace Tenancy

/-- A client that is logged in, by the number of its connection. -/
structure Client where
  number : Nat
  deriving DecidableEq, Repr

/-- Who wants to log in where. -/
structure Login where
  host : String
  port : Nat
  tls : TlsMode
  user : String
  password : Option String
  database : String
  application : String
  deriving DecidableEq, Repr

/-- The value of a parameter. -/
inductive Parameter where
  | null
  | text (s : String)
  | document (v : Json)
  | bytes (bs : List UInt8)
  deriving BEq, Repr

/-- What a statement gives: rows of a result, or the number of rows it affected. -/
structure Reply where
  columns : List Column := []
  rows : List Row := []
  affected : Nat := 0
  deriving DecidableEq, Repr

/-- A statement without columns has no rows; it counts those it affected. -/
def Reply.rowCount (r : Reply) : Nat := if r.columns.isEmpty then r.affected else r.rows.length

/-- A server with states of type `σ`. -/
class Server (σ : Type) where
  /-- Logs a client in, unless the server cannot be reached or refuses. -/
  logIn : Login → σ → Option Client × σ
  /-- Sends a statement without parameters, of which no result is expected. -/
  send : Client → String → σ → Except StatementFault Unit × σ
  /-- Prepares a statement and runs it with parameters. -/
  run : Client → String → List Parameter → σ → Except StatementFault Reply × σ
  /-- Closes the connection of a client that wants nothing more. -/
  leave : Client → σ → σ
  /-- Whether the connection of a client is closed. -/
  isClosed : Client → σ → Bool

end Tenancy
