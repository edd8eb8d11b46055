import Mathlib.Tactic.Lemma
import Tenancy.Server.Scripted

/-!
# Database engines

What the upkeep of a schema relies on in a database engine. An engine keeps data. A client can open a
transaction, which works on data of its own and has savepoints; what it did is kept when it is
committed, and vanishes when it is rolled back, when the commit is refused and when the connection is
lost. A refused statement spoils the transaction it is in: the engine then refuses everything up to the
end of the transaction or the way back to a savepoint.

What a statement does to the data, what the engine replies, which statements it refuses and when it
loses a connection is up to the engine: `Engine` has them as fields, and theorems hold of every engine.
`State.receive_cases` lists all that can come of a statement.
-/

namespace Tenancy

/-- What an engine has in mind for a statement. -/
inductive Fate where
  | accept
  | refuse (report : Report)
  /-- The connection is lost. -/
  | close

/-- A database engine. -/
structure Engine where
  /-- The state of the tables. -/
  Data : Type
  /-- What a statement that is no transaction control does. -/
  effect : String → List Parameter → Data → Reply × Data
  /-- Why parameters do not fit a statement, if they do not. -/
  misfit : String → List Parameter → Option Mismatch
  /-- What becomes of a statement, by the number of statements received before it. -/
  fate : Nat → String → Fate
  /-- Whether somebody may log in, by the number of attempts before. -/
  admits : Nat → Login → Bool

namespace Engine

/-- How an engine reads a statement. -/
inductive Reading where
  | begin
  | commit
  | rollback
  | savepoint (name : String)
  | rollbackTo (name : String)
  | release (name : String)
  /-- Something about the session alone. -/
  | session
  /-- Something about data. -/
  | work
  deriving DecidableEq, Repr

/-- Reads a statement. -/
def Reading.ofSql (sql : String) : Reading :=
  match Understood.ofSql sql with
  | .begin => begin
  | .commit => commit
  | .rollback => rollback
  | .savepoint name => savepoint name
  | .rollbackTo name => rollbackTo name
  | .release name => release name
  | _ => if "SET ".toList.isPrefixOf sql.toList then session else work

/-- Whether a statement ends a transaction. -/
def Reading.isEnd : Reading → Bool
  | commit | rollback => true
  | _ => false

/-- Why the engine itself refuses a statement in a spoiled transaction. -/
def spoiledReport : Report :=
  { code := "25P02"
    message := "current transaction is aborted, commands ignored until end of transaction block" }

/-- Why the engine itself refuses to go back to a savepoint that there is not. -/
def savepointReport (name : String) : Report :=
  { code := "3B001", message := s!"savepoint {Text.quoted name} does not exist" }

/-- Why the engine itself refuses savepoints outside of transactions. -/
def outsideReport : Report :=
  { code := "25P01", message := "savepoints can only be used in transaction blocks" }

/-- A transaction. -/
structure Transaction (e : Engine) where
  data : e.Data
  /-- The data at each savepoint, the latest first. -/
  savepoints : List (String × e.Data) := []
  /-- Whether a statement was refused since the last savepoint that counts. -/
  spoiled : Bool := false

/-- The engine's side of a client's connection. -/
structure Session (e : Engine) where
  closed : Bool := false
  transaction : Option (Transaction e) := none

/-- The state of an engine. -/
structure State (e : Engine) where
  /-- The data that are kept. -/
  kept : e.Data
  sessions : Client → Session e
  /-- How often somebody wanted to log in. -/
  attempts : Nat := 0
  /-- What was received from whom, the latest first. -/
  log : List (Client × Received) := []
  /-- Who had which data kept, the latest first. -/
  commits : List (Client × e.Data) := []

variable {e : Engine}

namespace Transaction

/-- The savepoints from the latest of a name on. -/
def reach (t : Transaction e) (name : String) : List (String × e.Data) :=
  t.savepoints.dropWhile (·.1 ≠ name)

/-- What a statement does inside a transaction that it does not end. -/
def obey (t : Transaction e) (sql : String) (ps : List Parameter) :
    Except Report (Reply × Transaction e) :=
  match Reading.ofSql sql with
  | .rollbackTo name =>
    match t.reach name with
    | [] => .error (savepointReport name)
    | former :: earlier => .ok ({}, { data := former.2, savepoints := former :: earlier })
  | reading =>
    if t.spoiled then .error spoiledReport
    else
      match reading with
      | .savepoint name => .ok ({}, { t with savepoints := (name, t.data) :: t.savepoints })
      | .release name =>
        match t.reach name with
        | [] => .error (savepointReport name)
        | _ :: earlier => .ok ({}, { t with savepoints := earlier })
      | .work =>
        let (reply, data) := e.effect sql ps t.data
        .ok (reply, { t with data })
      | _ => .ok ({}, t)

section Readings
variable (t : Transaction e) {sql name : String} (ps : List Parameter)
  {former : String × e.Data} {earlier : List (String × e.Data)}

/-- A statement about data takes effect, unless the transaction is spoiled. -/
lemma obey_work (h : Reading.ofSql sql = .work) :
    t.obey sql ps =
      if t.spoiled then .error spoiledReport
      else .ok ((e.effect sql ps t.data).1, { t with data := (e.effect sql ps t.data).2 }) := by
  rw [obey, h]

/-- A savepoint is set, unless the transaction is spoiled. -/
lemma obey_savepoint (h : Reading.ofSql sql = .savepoint name) :
    t.obey sql ps =
      if t.spoiled then .error spoiledReport
      else .ok ({}, { t with savepoints := (name, t.data) :: t.savepoints }) := by
  rw [obey, h]

/-- It is let go of, along with the later ones. -/
lemma obey_release (h : Reading.ofSql sql = .release name)
    (reach : t.reach name = former :: earlier) :
    t.obey sql ps =
      if t.spoiled then .error spoiledReport else .ok ({}, { t with savepoints := earlier }) := by
  rw [obey, h]
  dsimp only
  rw [reach]

/-- The way back to it leads to the data that were there. -/
lemma obey_rollbackTo (h : Reading.ofSql sql = .rollbackTo name)
    (reach : t.reach name = former :: earlier) :
    t.obey sql ps = .ok ({}, { data := former.2, savepoints := former :: earlier }) := by
  rw [obey, h]
  dsimp only
  rw [reach]

end Readings

/-- A transaction in which something was obeyed is not spoiled. -/
lemma spoiled_of_obey {t t' : Transaction e} {sql : String} {ps : List Parameter} {reply : Reply}
    (h : t.obey sql ps = .ok (reply, t')) : t'.spoiled = false := by
  unfold obey at h
  split at h
  · split at h
    · cases h
    · cases h
      rfl
  · split at h
    · cases h
    · next sound =>
      have sound : t.spoiled = false := by simpa using sound
      split at h
      · cases h
        exact sound
      · split at h
        · cases h
        · cases h
          exact sound
      · cases h
        exact sound
      · cases h
        exact sound

/-- What is about neither data nor savepoints leaves a transaction as it is. -/
lemma eq_of_obey {t t' : Transaction e} {sql : String} {ps : List Parameter} {reply : Reply}
    (idle : Reading.ofSql sql = .begin ∨ Reading.ofSql sql = .session)
    (h : t.obey sql ps = .ok (reply, t')) : t' = t := by
  unfold obey at h
  rcases idle with reading | reading
  · rw [reading] at h
    dsimp only at h
    split at h
    · cases h
    · cases h
      rfl
  · rw [reading] at h
    dsimp only at h
    split at h
    · cases h
    · cases h
      rfl

end Transaction

namespace State

/-- Replaces the engine's side of a client's connection. -/
def setSession (s : State e) (c : Client) (session : Session e) : State e :=
  { s with sessions := fun d => if d = c then session else s.sessions d }

/-- Writes down what was received. -/
def note (s : State e) (c : Client) (r : Received) : State e := { s with log := (c, r) :: s.log }

/-- Keeps data from now on. -/
def keep (s : State e) (c : Client) (data : e.Data) : State e :=
  { s with kept := data, commits := (c, data) :: s.commits }

/-- What a statement does that is accepted, unless it makes no sense where the client stands. -/
def obey (s : State e) (c : Client) (sql : String) (ps : List Parameter) :
    Except Report (Reply × State e) :=
  match (s.sessions c).transaction, Reading.ofSql sql with
  | some t, .commit => .ok ({}, (if t.spoiled then s else s.keep c t.data).setSession c {})
  | some _, .rollback => .ok ({}, s.setSession c {})
  | some t, _ => (t.obey sql ps).map fun (reply, t) =>
    (reply, s.setSession c { transaction := some t })
  | none, .begin => .ok ({}, s.setSession c { transaction := some { data := s.kept } })
  | none, .savepoint _ | none, .rollbackTo _ | none, .release _ => .error outsideReport
  | none, .work =>
    let (reply, data) := e.effect sql ps s.kept
    .ok (reply, s.keep c data)
  | none, _ => .ok ({}, s)

/-- The state after a statement was refused. Even so the end of a transaction ends it. -/
def refuse (s : State e) (c : Client) (sql : String) : State e :=
  match (s.sessions c).transaction, Reading.ofSql sql with
  | some _, .commit | some _, .rollback => s.setSession c {}
  | some t, _ => s.setSession c { transaction := some { t with spoiled := true } }
  | none, _ => s

/-- Receives a statement. -/
def receive (s : State e) (c : Client) (r : Received) (misfit : Option Mismatch) (sql : String)
    (ps : List Parameter) : Except StatementFault Reply × State e :=
  if (s.sessions c).closed then (.error .closed, s)
  else
    let noted := s.note c r
    match e.fate s.log.length sql, misfit with
    | .close, _ => (.error .closed, noted.setSession c { closed := true })
    | .refuse report, _ => (.error (.refused report), noted.refuse c sql)
    | .accept, some m => (.error (.mismatch m), noted)
    | .accept, none =>
      match noted.obey c sql ps with
      | .ok (reply, s) => (.ok reply, s)
      | .error report => (.error (.refused report), noted.refuse c sql)

/-- Logs a client in, unless the engine does not admit it. -/
def logIn (l : Login) (s : State e) : Option Client × State e :=
  let s' := { s with attempts := s.attempts + 1 }
  if e.admits s.attempts l then
    let c : Client := ⟨s.attempts + 1⟩
    (some c, s'.setSession c {})
  else (none, s')

instance : Server (State e) where
  logIn := logIn
  send c sql s :=
    let (result, s) := s.receive c (.simple sql) none sql []
    (result.map fun _ => (), s)
  run c sql ps s := s.receive c (.prepared sql (some ps)) (e.misfit sql ps) sql ps
  leave c s := s.setSession c { closed := true }
  isClosed c s := (s.sessions c).closed

/-- A statement that is run is received as a prepared one. -/
lemma run_eq (c : Client) (sql : String) (ps : List Parameter) (s : State e) :
    Server.run c sql ps s =
      s.receive c (.prepared sql (some ps)) (e.misfit sql ps) sql ps := rfl

/-- One that is sent is received as a simple one. -/
lemma send_eq (c : Client) (sql : String) (s : State e) :
    Server.send c sql s =
      ((s.receive c (.simple sql) none sql []).1.map fun _ => (),
        (s.receive c (.simple sql) none sql []).2) := rfl

/-- The data that a client sees. -/
def seen (s : State e) (c : Client) : e.Data :=
  match (s.sessions c).transaction with
  | some t => t.data
  | none => s.kept

/-- The session of a client is the one that was set. -/
@[simp]
lemma sessions_setSession (s : State e) (c : Client) (session : Session e) :
    (s.setSession c session).sessions c = session := if_pos rfl

/-- A note in the log leaves the sessions. -/
@[simp]
lemma sessions_note (s : State e) (c : Client) (r : Received) :
    (s.note c r).sessions = s.sessions := rfl

/-- The end of a transaction keeps what it did, unless it is spoiled. -/
lemma obey_commit {s : State e} {c : Client} {t : Transaction e}
    (inside : (s.sessions c).transaction = some t) (ps : List Parameter) :
    s.obey c "COMMIT" ps =
      .ok ({}, (if t.spoiled then s else s.keep c t.data).setSession c {}) := by
  unfold obey
  rw [inside]
  rfl

/-- Inside a transaction a statement that does not end it is obeyed by the transaction. -/
lemma obey_inside {s : State e} {c : Client} {t : Transaction e} {sql : String}
    (inside : (s.sessions c).transaction = some t) (stays : (Reading.ofSql sql).isEnd = false)
    (ps : List Parameter) :
    s.obey c sql ps = (t.obey sql ps).map fun (reply, t) =>
      (reply, s.setSession c { transaction := some t }) := by
  unfold obey
  rw [inside]
  cases reading : Reading.ofSql sql <;> rw [reading] at stays <;> first | rfl | cases stays

/-- A statement that does not end the transaction leaves what the transaction makes of it. -/
lemma exists_of_obey {s s' : State e} {c : Client} {t : Transaction e} {sql : String}
    {ps : List Parameter} {reply : Reply} (inside : (s.sessions c).transaction = some t)
    (stays : (Reading.ofSql sql).isEnd = false) (h : s.obey c sql ps = .ok (reply, s')) :
    ∃ t', t.obey sql ps = .ok (reply, t') ∧ s' = s.setSession c { transaction := some t' } := by
  rw [obey_inside inside stays] at h
  rcases obeys : t.obey sql ps with report | ⟨answer, t'⟩
  · rw [obeys] at h
    cases h
  · rw [obeys] at h
    cases h
    exact ⟨t', rfl, rfl⟩

/-- Inside a transaction a statement that does not end it spoils it where it is refused. -/
lemma refuse_inside {s : State e} {c : Client} {t : Transaction e} {sql : String}
    (inside : (s.sessions c).transaction = some t)
    (stays : (Reading.ofSql sql).isEnd = false) :
    s.refuse c sql = s.setSession c { transaction := some { t with spoiled := true } } := by
  unfold refuse
  rw [inside]
  cases reading : Reading.ofSql sql <;> rw [reading] at stays <;> first | rfl | cases stays

/-- Everything that can come of a statement: the connection is lost, or was lost before; the statement
is refused; its parameters do not fit; or it is obeyed. -/
theorem receive_cases (s : State e) (c : Client) (r : Received) (misfit : Option Mismatch)
    (sql : String) (ps : List Parameter) :
    ((s.sessions c).closed = true ∧ s.receive c r misfit sql ps = (.error .closed, s)) ∨
    ((s.sessions c).closed = false ∧
      ((s.receive c r misfit sql ps =
          (.error .closed, (s.note c r).setSession c { closed := true }) ∧
        ∃ n sql, e.fate n sql = .close) ∨
      (∃ report, s.receive c r misfit sql ps =
        (.error (.refused report), (s.note c r).refuse c sql)) ∨
      (∃ m, s.receive c r misfit sql ps = (.error (.mismatch m), s.note c r)) ∨
      ∃ reply s', (s.note c r).obey c sql ps = .ok (reply, s') ∧
        s.receive c r misfit sql ps = (.ok reply, s'))) := by
  unfold receive
  cases closed : (s.sessions c).closed with
  | true => exact .inl ⟨rfl, rfl⟩
  | false =>
    refine .inr ⟨rfl, ?_⟩
    rcases fate : e.fate s.log.length sql with _ | report | _
    · cases misfit with
      | some m => exact .inr (.inr (.inl ⟨m, rfl⟩))
      | none =>
        rcases h : (s.note c r).obey c sql ps with report | ⟨reply, s'⟩
        · refine .inr (.inl ⟨report, ?_⟩)
          simp [h]
        · refine .inr (.inr (.inr ⟨reply, s', rfl, ?_⟩))
          simp [h]
    · exact .inr (.inl ⟨report, rfl⟩)
    · exact .inl ⟨rfl, _, _, fate⟩

/-- A reply comes of a statement that is obeyed. -/
lemma obey_of_receive {s s' : State e} {c : Client} {r : Received} {misfit : Option Mismatch}
    {sql : String} {ps : List Parameter} {reply : Reply}
    (h : s.receive c r misfit sql ps = (.ok reply, s')) :
    (s.sessions c).closed = false ∧ (s.note c r).obey c sql ps = .ok (reply, s') := by
  rcases receive_cases s c r misfit sql ps with ⟨-, eq⟩ | ⟨opened, cases⟩
  · rw [eq] at h
    cases h
  · rcases cases with ⟨eq, -⟩ | ⟨report, eq⟩ | ⟨m, eq⟩ | ⟨answer, t, obeys, eq⟩
    · rw [eq] at h
      cases h
    · rw [eq] at h
      cases h
    · rw [eq] at h
      cases h
    · rw [eq] at h
      cases h
      exact ⟨opened, obeys⟩

/-- A statement that the engine is willing to take is obeyed, unless it makes no sense. -/
lemma receive_accept {s : State e} {c : Client} {r : Received} {sql : String}
    {ps : List Parameter} (opened : (s.sessions c).closed = false)
    (accept : e.fate s.log.length sql = .accept) :
    s.receive c r none sql ps =
      match (s.note c r).obey c sql ps with
      | .ok (reply, s') => (.ok reply, s')
      | .error report => (.error (.refused report), (s.note c r).refuse c sql) := by
  simp only [receive, opened, accept]
  rfl

end State

/-- An engine with the data of the server that follows a script. -/
def ofDatabase (fate : Nat → String → Fate) : Engine where
  Data := Database
  effect sql ps d :=
    let (reply, _, d) := ScriptedServer.obey {} d ps (.ofSql sql)
    (reply, d)
  misfit := ScriptedServer.misfit?
  fate := fate
  admits _ _ := true

end Engine
end Tenancy
