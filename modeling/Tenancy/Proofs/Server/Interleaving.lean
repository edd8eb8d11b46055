import Mathlib.Data.Set.Insert
import Mathlib.Logic.Function.Basic
import Mathlib.Logic.Relation
import Tenancy.Connection.Request
import Tenancy.Proofs.Server.Reading

/-!
# Sessions side by side

Several sessions work on one database, each with its calls one after the other. A call asks for one thing
after the other, and between its requests those of other sessions are answered, in any order: `Step` is one
answer, or the beginning or the end of a call. `Answers` lists what can come of a request. What a statement
does to the data is up to the `Store`; transactions, savepoints and advisory locks are the same for all
stores. A lock is granted while no other session holds it, and it is held to the end of the transaction, or
up to the way back to an earlier savepoint. `exclusive_locks` says that no two sessions ever hold a lock.
-/

namespace Tenancy.Interleaving
open Connection Engine

/-- What a database does with its data, whoever sends the statements. -/
structure Store where
  /-- The data that are kept. -/
  Kept : Type
  /-- What a transaction has done to them so far. -/
  Work : Type
  /-- What it has done at first. -/
  blank : Work
  /-- What a transaction may be replied to a statement, and what it has done then. -/
  executes : Kept → Work → String → List Parameter → Reply → Work → Prop
  /-- What a transaction may be told about whether there is a table. -/
  finds : Kept → Work → String → Bool → Prop
  /-- Whether a statement has to wait for a transaction that has done so much. -/
  hinders : Work → String → List Parameter → Prop
  /-- The data that are kept once a transaction is committed. -/
  publish : Kept → Work → Kept

/-- The statement that waits for an advisory lock. -/
def lockStatement : String := "SELECT pg_advisory_xact_lock(hashtext(%s))"

/-- The request for the lock with a key. -/
def lockRequest (key : String) : Request := .execute lockStatement [.text key]

/-- A savepoint, with what had been done and which locks were held. -/
structure Savepoint (S : Store) (K : Type) where
  name : String
  work : S.Work
  locks : Set K

/-- The database's side of a connection, with the results that were fetched from it. Locks are told apart by
`K`, which keys are hashed to. -/
structure Session (S : Store) (K : Type) where
  closed : Bool := false
  inTransaction : Bool := false
  work : S.Work := S.blank
  locks : Set K := ∅
  /-- The latest first. -/
  savepoints : List (Savepoint S K) := []
  /-- The rows of each result that were not fetched yet. -/
  results : List (List Row) := []

namespace Session
variable {S : Store} {K : Type}

/-- The session after the end of its transaction. -/
def ended (s : Session S K) : Session S K := { results := s.results, closed := s.closed }

/-- The session when a transaction is opened. -/
def begun (s : Session S K) : Session S K := { s.ended with inTransaction := true }

/-- The session when its connection is lost. -/
def lost (s : Session S K) : Session S K := { s.ended with closed := true }

/-- Whether a statement can be run in `t`: where no transaction is open, one is opened for it, unless each
statement is one by itself. -/
def Enters (s t : Session S K) : Prop := t = s ∨ s.inTransaction = false ∧ t = s.begun

/-- The cursor for a reply. -/
def cursor (s : Session S K) (reply : Reply) : Cursor := ⟨s.results.length, reply.columns, reply.rowCount⟩

/-- The session with the rows of a reply. -/
def received (s : Session S K) (reply : Reply) : Session S K :=
  { s with results := s.results ++ [if reply.columns.isEmpty then [] else reply.rows] }

/-- The rows that a cursor has left. -/
def rows (s : Session S K) (cursor : Cursor) : List Row := s.results[cursor.number]?.getD []

/-- What lies behind the session, of which nothing is left when its transaction ends. -/
def remaining {Call : Type} (s : Session S K) (past : List Call) : List Call :=
  if s.inTransaction then past else []

/-- The session when the next row of a cursor was fetched. -/
def fetched (s : Session S K) (cursor : Cursor) : Session S K :=
  { s with results := s.results.set cursor.number ((s.rows cursor).drop 1) }

end Session

/-- What can come of a statement that is run: the reply, the data that are kept afterwards, and the session.
A lock is granted if it is `free`, and a statement about data is run if its way is `clear`. -/
inductive Runs {S : Store} {K : Type} (hash : String → K) (free : K → Prop)
    (clear : String → List Parameter → Prop) (kept : S.Kept) (s : Session S K) :
    (sql : String) → List Parameter → Reply → S.Kept → Session S K → Prop where
  | lock {key : String} (granted : free (hash key)) (reply : Reply) :
    Runs hash free clear kept s lockStatement [.text key] reply kept
      { s with locks := if s.inTransaction then insert (hash key) s.locks else s.locks }
  | savepoint (inside : s.inTransaction = true) {sql name : String}
    (reads : Reading.ofSql sql = .savepoint name) (ps : List Parameter) (reply : Reply) :
    Runs hash free clear kept s sql ps reply kept
      { s with savepoints := ⟨name, s.work, s.locks⟩ :: s.savepoints }
  /-- On the way back to a savepoint the later locks are kept or let go. -/
  | rollbackTo (inside : s.inTransaction = true) {sql name : String}
    (reads : Reading.ofSql sql = .rollbackTo name) {former : Savepoint S K}
    {earlier : List (Savepoint S K)}
    (reach : s.savepoints.dropWhile (·.name ≠ name) = former :: earlier) {locks : Set K}
    (holds : locks = s.locks ∨ locks = s.locks ∩ former.locks) (ps : List Parameter) (reply : Reply) :
    Runs hash free clear kept s sql ps reply kept
      { s with work := former.work, locks, savepoints := former :: earlier }
  | release (inside : s.inTransaction = true) {sql name : String}
    (reads : Reading.ofSql sql = .release name) {former : Savepoint S K} {earlier : List (Savepoint S K)}
    (reach : s.savepoints.dropWhile (·.name ≠ name) = former :: earlier) (ps : List Parameter)
    (reply : Reply) :
    Runs hash free clear kept s sql ps reply kept { s with savepoints := earlier }
  | work (inside : s.inTransaction = true) {sql : String} {ps : List Parameter}
    (reads : Reading.ofSql sql = .work) (other : sql ≠ lockStatement) (unhindered : clear sql ps)
    {reply : Reply} {work : S.Work} (executes : S.executes kept s.work sql ps reply work) :
    Runs hash free clear kept s sql ps reply kept { s with work }
  /-- Outside of a transaction a statement is one by itself. -/
  | alone (outside : s.inTransaction = false) {sql : String} {ps : List Parameter}
    (reads : Reading.ofSql sql = .work) (other : sql ≠ lockStatement) (unhindered : clear sql ps)
    {reply : Reply} {work : S.Work} (executes : S.executes kept S.blank sql ps reply work) :
    Runs hash free clear kept s sql ps reply (S.publish kept work) s

/-- What can come of a request: the answer, the data that are kept afterwards, and the session. -/
inductive Answers {S : Store} {K : Type} (hash : String → K) (free : K → Prop)
    (clear : String → List Parameter → Prop) (kept : S.Kept) (s : Session S K) :
    (r : Request) → Except Failure r.Answer → S.Kept → Session S K → Prop where
  | refused (r : Request) (failure : Failure) : Answers hash free clear kept s r (.error failure) kept s
  | lost (r : Request) (failure : Failure) : Answers hash free clear kept s r (.error failure) kept s.lost
  | inTransaction : Answers hash free clear kept s .inTransaction (.ok s.inTransaction) kept s
  | begin (opened : s.closed = false) (outside : s.inTransaction = false) :
    Answers hash free clear kept s .begin (.ok ()) kept s.begun
  | beginAgain (inside : s.inTransaction = true) : Answers hash free clear kept s .begin (.ok ()) kept s
  | commit (opened : s.closed = false) (inside : s.inTransaction = true) :
    Answers hash free clear kept s .commit (.ok ()) (S.publish kept s.work) s.ended
  /-- A transaction that is spoiled vanishes when it is to be committed. -/
  | vanish (opened : s.closed = false) (inside : s.inTransaction = true)
    (result : Except Failure Unit) : Answers hash free clear kept s .commit result kept s.ended
  | commitNone (outside : s.inTransaction = false) : Answers hash free clear kept s .commit (.ok ()) kept s
  | rollback (opened : s.closed = false) (inside : s.inTransaction = true)
    (result : Except Failure Unit) : Answers hash free clear kept s .rollback result kept s.ended
  | rollbackNone (outside : s.inTransaction = false) :
    Answers hash free clear kept s .rollback (.ok ()) kept s
  | execute (opened : s.closed = false) {t : Session S K} (enters : s.Enters t) {sql : String}
    {ps : List Parameter} {reply : Reply} {kept' : S.Kept} {s' : Session S K}
    (runs : Runs hash free clear kept t sql ps reply kept' s') :
    Answers hash free clear kept s (.execute sql ps) (.ok (s'.cursor reply)) kept' (s'.received reply)
  | fails (opened : s.closed = false) {t : Session S K} (enters : s.Enters t) (sql : String)
    (ps : List Parameter) (failure : Failure) :
    Answers hash free clear kept s (.execute sql ps) (.error failure) kept t
  | fetchOne (cursor : Cursor) :
    Answers hash free clear kept s (.fetchOne cursor) (.ok (s.rows cursor).head?) kept (s.fetched cursor)
  | tableExists (opened : s.closed = false) {name : String} {found : Bool}
    (finds : S.finds kept (if s.inTransaction then s.work else S.blank) name found) :
    Answers hash free clear kept s (.tableExists name) (.ok found) kept s

/-! ## Systems -/

/-- The sessions of a database. Each is about one call at most. -/
structure System (ι : Type) (S : Store) (K Call : Type) where
  kept : S.Kept
  sessions : ι → Session S K
  /-- The call of each session, with what it has yet to do. -/
  calls : ι → Option (Call × Talk Unit)
  /-- The calls that ended in the transaction of each session, the latest first. -/
  past : ι → List Call

namespace System
variable {ι : Type} {S : Store} {K Call : Type}

/-- Sessions of which nothing has been heard yet. -/
def start (kept : S.Kept) : System ι S K Call where
  kept := kept
  sessions := fun _ => {}
  calls := fun _ => none
  past := fun _ => []

/-- Whether no other session holds a lock. -/
def Free (s : System ι S K Call) (i : ι) (k : K) : Prop := ∀ j ≠ i, k ∉ (s.sessions j).locks

/-- Whether a statement need not wait for another session. -/
def Clear (s : System ι S K Call) (i : ι) (sql : String) (ps : List Parameter) : Prop :=
  ∀ j ≠ i, ¬ S.hinders (s.sessions j).work sql ps

/-- Whether a session waits for another one, which holds a lock that it asks for. -/
def Waits (hash : String → K) (s : System ι S K Call) (i j : ι) : Prop :=
  i ≠ j ∧ ∃ call key next, s.calls i = some (call, .ask (lockRequest key) next) ∧
    hash key ∈ (s.sessions j).locks

end System

section Steps
variable {ι : Type} [DecidableEq ι] {S : Store} {K Call : Type}

/-- What happens next in a system: `may` says which calls sessions are allowed to make, and `does` what a
call does. -/
inductive Step (hash : String → K) (does : ι → Call → Talk Unit)
    (may : System ι S K Call → ι → Call → Prop) : System ι S K Call → System ι S K Call → Prop where
  | call {s : System ι S K Call} {i : ι} {call : Call} (idle : s.calls i = none) (allowed : may s i call) :
    Step hash does may s { s with calls := Function.update s.calls i (some (call, does i call)) }
  | answer {s : System ι S K Call} {i : ι} {call : Call} {r : Request}
    {next : Except Failure r.Answer → Talk Unit} (asks : s.calls i = some (call, .ask r next))
    {result : Except Failure r.Answer} {kept : S.Kept} {session : Session S K}
    (answers : Answers hash (s.Free i) (s.Clear i) s.kept (s.sessions i) r result kept session) :
    Step hash does may s
      { kept
        sessions := Function.update s.sessions i session
        calls := Function.update s.calls i (some (call, next result))
        past := Function.update s.past i (session.remaining (s.past i)) }
  | finish {s : System ι S K Call} {i : ι} {call : Call} {result : Except Failure Unit}
    (done : s.calls i = some (call, .done result)) :
    Step hash does may s { s with
      calls := Function.update s.calls i none
      past := Function.update s.past i ((s.sessions i).remaining (call :: s.past i)) }

/-- Whether a system can come about. -/
def Reachable (hash : String → K) (does : ι → Call → Talk Unit)
    (may : System ι S K Call → ι → Call → Prop) (s : System ι S K Call) : Prop :=
  ∃ kept, Relation.ReflTransGen (Step hash does may) (System.start kept) s

end Steps

/-! ## Locks -/

section Locks
variable {S : Store} {K : Type} {hash : String → K} {free : K → Prop}
  {clear : String → List Parameter → Prop} {kept kept' : S.Kept} {s s' t : Session S K}

/-- Whether something is so of the locks of a session, and of those at each of its savepoints. -/
def Session.AllLocks (P : Set K → Prop) (s : Session S K) : Prop :=
  P s.locks ∧ ∀ x ∈ s.savepoints, P x.locks

/-- Whether nothing is held outside of a transaction. -/
def Session.Settled (s : Session S K) : Prop :=
  s.inTransaction = false → s.locks = ∅ ∧ s.savepoints = []

/-- A session in a transaction is settled. -/
lemma Session.settled_of_inside (inside : s.inTransaction = true) : s.Settled := fun outside => by
  rw [inside] at outside
  cases outside

/-- What is so of no locks is so of a session that has none. -/
lemma Session.AllLocks.of_none {P : Set K → Prop} (empty : P ∅)
    (none : s.locks = ∅ ∧ s.savepoints = []) : s.AllLocks P :=
  ⟨none.1 ▸ empty, fun _ mem => by rw [none.2] at mem; cases mem⟩

/-- In a transaction none is opened for a statement. -/
lemma Session.Enters.eq_of_inside (enters : s.Enters t) (inside : s.inTransaction = true) : t = s := by
  rcases enters with eq | ⟨outside, -⟩
  · exact eq
  · rw [inside] at outside
    cases outside

/-- A settled session is so with the transaction for a statement. -/
lemma Session.Settled.enters (settled : s.Settled) (enters : s.Enters t) : t.Settled := by
  rcases enters with rfl | ⟨-, rfl⟩
  · exact settled
  · exact fun _ => ⟨rfl, rfl⟩

/-- A transaction that is opened for a statement has the locks and savepoints of the session, which are
none. -/
lemma Session.Settled.enters_eq (settled : s.Settled) (enters : s.Enters t) :
    t.locks = s.locks ∧ t.savepoints = s.savepoints := by
  rcases enters with rfl | ⟨outside, rfl⟩
  · exact ⟨rfl, rfl⟩
  · rw [(settled outside).1, (settled outside).2]
    exact ⟨rfl, rfl⟩

section Runs
variable {sql : String} {ps : List Parameter} {reply : Reply}

/-- A statement leaves a settled session settled. -/
lemma Runs.settled (settled : s.Settled) (runs : Runs hash free clear kept s sql ps reply kept' s') :
    s'.Settled := by
  cases runs with
  | lock =>
    intro outside
    obtain ⟨locks, savepoints⟩ := settled outside
    refine ⟨?_, savepoints⟩
    change (if s.inTransaction then _ else s.locks) = ∅
    rw [show s.inTransaction = false from outside, if_neg Bool.false_ne_true, locks]
  | savepoint inside => exact Session.settled_of_inside inside
  | rollbackTo inside => exact Session.settled_of_inside inside
  | release inside => exact Session.settled_of_inside inside
  | work inside => exact Session.settled_of_inside inside
  | alone => exact settled

/-- What is so of the locks of a session stays so, if it is so of parts of locks and when a lock is added. -/
lemma Runs.allLocks {P : Set K → Prop} (inter : ∀ {l m}, P l → P m → P (l ∩ m))
    (locks : ∀ key, sql = lockStatement → ps = [.text key] → P (insert (hash key) s.locks))
    (h : s.AllLocks P) (runs : Runs hash free clear kept s sql ps reply kept' s') : s'.AllLocks P := by
  cases runs with
  | @lock key granted reply =>
    refine ⟨?_, h.2⟩
    change P (if s.inTransaction then insert (hash key) s.locks else s.locks)
    split
    · exact locks key rfl rfl
    · exact h.1
  | savepoint => exact ⟨h.1, List.forall_mem_cons.2 ⟨h.1, h.2⟩⟩
  | @rollbackTo inside sql name reads former earlier reach locks' holds ps reply =>
    have kept : ∀ x ∈ former :: earlier, P x.locks := fun x mem =>
      h.2 x ((List.dropWhile_sublist _).subset (reach ▸ mem))
    refine ⟨?_, kept⟩
    rcases holds with rfl | rfl
    · exact h.1
    · exact inter h.1 (kept former List.mem_cons_self)
  | @release inside sql name reads former earlier reach ps reply =>
    have sub := (List.dropWhile_sublist (l := s.savepoints) (·.name ≠ name)).subset
    exact ⟨h.1, fun x mem => h.2 x (sub (reach ▸ List.mem_cons_of_mem _ mem))⟩
  | work => exact h
  | alone => exact h

/-- A lock that is new was free. -/
lemma Runs.free_of_mem (runs : Runs hash free clear kept s sql ps reply kept' s') {k : K}
    (mem : k ∈ s'.locks) : k ∈ s.locks ∨ free k := by
  cases runs with
  | @lock key granted reply =>
    change k ∈ (if s.inTransaction then insert (hash key) s.locks else s.locks) at mem
    split at mem
    · rcases mem with rfl | mem
      · exact .inr granted
      · exact .inl mem
    · exact .inl mem
  | @rollbackTo inside sql name reads former earlier reach locks' holds ps reply =>
    change k ∈ locks' at mem
    rcases holds with rfl | rfl
    · exact .inl mem
    · exact .inl mem.1
  | savepoint => exact .inl mem
  | release => exact .inl mem
  | work => exact .inl mem
  | alone => exact .inl mem

/-- Only a way back to a savepoint and the request for a lock change what is held. -/
lemma Runs.leaves (runs : Runs hash free clear kept s sql ps reply kept' s')
    (onward : ∀ name, Reading.ofSql sql ≠ .rollbackTo name)
    (none : ∀ key, sql = lockStatement → ps ≠ [.text key]) : s'.locks = s.locks := by
  cases runs with
  | lock => exact absurd rfl (none _ rfl)
  | rollbackTo inside reads => exact absurd reads (onward _)
  | savepoint => rfl
  | release => rfl
  | work => rfl
  | alone => rfl

/-- No statement opens a transaction or ends one. -/
lemma Runs.inTransaction_eq (runs : Runs hash free clear kept s sql ps reply kept' s') :
    s'.inTransaction = s.inTransaction := by
  cases runs with
  | lock => rfl
  | savepoint => rfl
  | rollbackTo => rfl
  | release => rfl
  | work => rfl
  | alone => rfl

end Runs

variable {r : Request} {result : Except Failure r.Answer}

/-- So does every answer. -/
lemma Answers.settled (settled : s.Settled)
    (answers : Answers hash free clear kept s r result kept' s') : s'.Settled := by
  cases answers with
  | refused => exact settled
  | lost => exact fun _ => ⟨rfl, rfl⟩
  | inTransaction => exact settled
  | begin => exact fun _ => ⟨rfl, rfl⟩
  | beginAgain => exact settled
  | commit => exact fun _ => ⟨rfl, rfl⟩
  | vanish => exact fun _ => ⟨rfl, rfl⟩
  | commitNone => exact settled
  | rollback => exact fun _ => ⟨rfl, rfl⟩
  | rollbackNone => exact settled
  | execute opened enters runs =>
    have ran := runs.settled (settled.enters enters)
    exact ran
  | fails opened enters => exact settled.enters enters
  | fetchOne => exact settled
  | tableExists => exact settled

/-- What is so of the locks of a session stays so with an answer, if it is so of parts of locks and when a
lock is added. -/
lemma Answers.allLocks {P : Set K → Prop} (settled : s.Settled) (empty : P ∅)
    (inter : ∀ {l m}, P l → P m → P (l ∩ m))
    (locks : ∀ key, r = lockRequest key → P (insert (hash key) s.locks))
    (h : s.AllLocks P) (answers : Answers hash free clear kept s r result kept' s') : s'.AllLocks P := by
  have none : s.ended.AllLocks P := .of_none empty ⟨rfl, rfl⟩
  have enter {t : Session S K} (enters : s.Enters t) : t.AllLocks P := by
    obtain ⟨eq, eq'⟩ := settled.enters_eq enters
    rw [Session.AllLocks, eq, eq']
    exact h
  cases answers with
  | refused => exact h
  | lost => exact none
  | inTransaction => exact h
  | begin => exact none
  | beginAgain => exact h
  | commit => exact none
  | vanish => exact none
  | commitNone => exact h
  | rollback => exact none
  | rollbackNone => exact h
  | execute opened enters runs =>
    have ran := runs.allLocks inter (fun key eq eq' => ?_) (enter enters)
    · exact ran
    · rw [(settled.enters_eq enters).1]
      exact locks key (by rw [eq, eq', lockRequest])
  | fails opened enters => exact enter enters
  | fetchOne => exact h
  | tableExists => exact h

/-- A lock that is held after an answer was held before, or free. -/
lemma Answers.free_of_mem (answers : Answers hash free clear kept s r result kept' s') {k : K}
    (mem : k ∈ s'.locks) : k ∈ s.locks ∨ free k := by
  have entered {t : Session S K} (enters : s.Enters t) (mem : k ∈ t.locks) : k ∈ s.locks := by
    rcases enters with rfl | ⟨-, rfl⟩
    · exact mem
    · cases mem
  cases answers with
  | execute opened enters runs =>
    rcases runs.free_of_mem mem with held | free
    · exact .inl (entered enters held)
    · exact .inr free
  | fails opened enters => exact .inl (entered enters mem)
  | refused => exact .inl mem
  | inTransaction => exact .inl mem
  | beginAgain => exact .inl mem
  | commitNone => exact .inl mem
  | rollbackNone => exact .inl mem
  | fetchOne => exact .inl mem
  | tableExists => exact .inl mem
  | lost => cases mem
  | begin => cases mem
  | commit => cases mem
  | vanish => cases mem
  | rollback => cases mem

/-- A statement that is run in a transaction leaves the locks as they are, unless it is about them. -/
lemma Answers.leaves {sql : String} {ps : List Parameter} {cursor : Cursor}
    (answers : Answers hash free clear kept s (.execute sql ps) (.ok cursor) kept' s')
    (inside : s.inTransaction = true) (onward : ∀ name, Reading.ofSql sql ≠ .rollbackTo name)
    (none : ∀ key, sql = lockStatement → ps ≠ [.text key]) :
    s'.inTransaction = true ∧ s'.locks = s.locks := by
  cases answers with
  | execute opened enters runs =>
    obtain rfl := enters.eq_of_inside inside
    have locks := runs.leaves onward none
    exact ⟨runs.inTransaction_eq.trans inside, locks⟩

/-- A lock that is granted in a transaction is held. -/
lemma Answers.holds {key : String} {cursor : Cursor}
    (answers : Answers hash free clear kept s (lockRequest key) (.ok cursor) kept' s')
    (inside : s.inTransaction = true) :
    ∃ reply, kept' = kept ∧ s' = { s with locks := insert (hash key) s.locks }.received reply := by
  cases answers with
  | execute opened enters runs =>
    obtain rfl := enters.eq_of_inside inside
    cases runs with
    | lock => exact ⟨_, rfl, by rw [if_pos inside]⟩
    | savepoint inside reads => cases reads
    | rollbackTo inside reads => cases reads
    | release inside reads => cases reads
    | work inside reads other => exact absurd rfl other
    | alone outside reads other => exact absurd rfl other

end Locks

/-! ## Data -/

section Data
variable {S : Store} {K : Type} {hash : String → K} {free : K → Prop}
  {clear : String → List Parameter → Prop} {kept kept' : S.Kept} {s s' : Session S K}

/-- Whether something is so of what a session has done, and of what it had done at each of its savepoints. -/
def Session.AllWork (P : S.Work → Prop) (s : Session S K) : Prop :=
  P s.work ∧ ∀ x ∈ s.savepoints, P x.work

/-- The rows of a reply are there to be fetched. -/
lemma Session.rows_received (s : Session S K) (reply : Reply) :
    (s.received reply).rows (s.cursor reply) = if reply.columns.isEmpty then [] else reply.rows := by
  rw [rows, received, cursor, List.getElem?_concat_length]
  rfl

/-- What is so of the work of a transaction stays so, if statements about data leave it so. -/
lemma Runs.allWork {P : S.Work → Prop} {sql : String} {ps : List Parameter} {reply : Reply}
    (executes : ∀ {work reply work'}, P work → S.executes kept work sql ps reply work' → P work')
    (h : s.AllWork P) (runs : Runs hash free clear kept s sql ps reply kept' s') : s'.AllWork P := by
  cases runs with
  | lock => exact h
  | savepoint => exact ⟨h.1, List.forall_mem_cons.2 ⟨h.1, h.2⟩⟩
  | @rollbackTo inside sql name reads former earlier reach locks' holds ps reply =>
    have kept : ∀ x ∈ former :: earlier, P x.work := fun x mem =>
      h.2 x ((List.dropWhile_sublist _).subset (reach ▸ mem))
    exact ⟨kept former List.mem_cons_self, kept⟩
  | @release inside sql name reads former earlier reach ps reply =>
    have sub := (List.dropWhile_sublist (l := s.savepoints) (·.name ≠ name)).subset
    exact ⟨h.1, fun x mem => h.2 x (sub (reach ▸ List.mem_cons_of_mem _ mem))⟩
  | work inside reads other unhindered executed => exact ⟨executes h.1 executed, h.2⟩
  | alone => exact h

/-- Nothing but a commit keeps anything, where statements are run in transactions. -/
lemma Answers.kept_eq {r : Request} {result : Except Failure r.Answer}
    (within : ∀ sql ps, r = .execute sql ps → s.closed = false → s.inTransaction = true)
    (answers : Answers hash free clear kept s r result kept' s') :
    kept' = kept ∨ r = .commit ∧ s.inTransaction = true ∧ kept' = S.publish kept s.work := by
  cases answers with
  | commit opened inside => exact .inr ⟨rfl, inside, rfl⟩
  | execute opened enters runs =>
    have inside := within _ _ rfl opened
    obtain rfl := enters.eq_of_inside inside
    cases runs with
    | alone outside =>
      rw [inside] at outside
      cases outside
    | _ => exact .inl rfl
  | _ => exact .inl rfl

/-- Nothing is run on a connection that is lost. -/
lemma Answers.opened {sql : String} {ps : List Parameter} {cursor : Cursor}
    (answers : Answers hash free clear kept s (.execute sql ps) (.ok cursor) kept' s') :
    s.closed = false := by
  cases answers with
  | execute opened => exact opened

/-- A statement about data that is run in a transaction does what the store says. -/
lemma Answers.executed {sql : String} {ps : List Parameter} {cursor : Cursor}
    (answers : Answers hash free clear kept s (.execute sql ps) (.ok cursor) kept' s')
    (inside : s.inTransaction = true) (reads : Reading.ofSql sql = .work) (other : sql ≠ lockStatement) :
    ∃ reply work, S.executes kept s.work sql ps reply work ∧ cursor = s.cursor reply ∧ kept' = kept ∧
      s' = { s with work }.received reply := by
  cases answers with
  | @execute opened t enters sql ps reply kept' s' runs =>
    obtain rfl := enters.eq_of_inside inside
    cases runs with
    | work inside' reads' other' unhindered executes => exact ⟨reply, _, executes, rfl, rfl, rfl⟩
    | lock => exact absurd rfl other
    | savepoint inside' reads' => cases reads.symm.trans reads'
    | rollbackTo inside' reads' => cases reads.symm.trans reads'
    | release inside' reads' => cases reads.symm.trans reads'
    | alone outside =>
      rw [inside] at outside
      cases outside

end Data

section Exclusive
variable {ι : Type} [DecidableEq ι] {S : Store} {K Call : Type} {hash : String → K}
  {does : ι → Call → Talk Unit} {may : System ι S K Call → ι → Call → Prop} {s s' : System ι S K Call}

/-- Whether no two sessions hold one lock. -/
def System.Exclusive (s : System ι S K Call) : Prop :=
  ∀ i j k, k ∈ (s.sessions i).locks → k ∈ (s.sessions j).locks → i = j

/-- With a step no two sessions come to hold one lock. -/
lemma Step.exclusive (step : Step hash does may s s') (h : s.Exclusive) : s'.Exclusive := by
  cases step with
  | call => exact h
  | @answer i call r next asks result kept session answers =>
    -- A lock that the session has got was held by itself, or by none of the others.
    have got : ∀ j k, k ∈ session.locks → j ≠ i → k ∉ (s.sessions j).locks := by
      intro j k mem other held
      rcases answers.free_of_mem mem with own | free
      · exact other (h j i k held own)
      · exact free j other held
    intro a b k ha hb
    change k ∈ (Function.update s.sessions i session a).locks at ha
    change k ∈ (Function.update s.sessions i session b).locks at hb
    by_cases ai : a = i
    · by_cases bi : b = i
      · rw [ai, bi]
      · rw [ai, Function.update_self] at ha
        rw [Function.update_of_ne bi] at hb
        exact absurd hb (got b k ha bi)
    · rw [Function.update_of_ne ai] at ha
      by_cases bi : b = i
      · rw [bi, Function.update_self] at hb
        exact absurd ha (got a k hb ai)
      · rw [Function.update_of_ne bi] at hb
        exact h a b k ha hb
  | finish => exact h

/-- What is so of each session stays so with every step, if it does for the session that makes the step and
if the others are not disturbed. -/
lemma Step.each {P : ι → S.Kept → Session S K → List Call → Option (Call × Talk Unit) → Prop}
    (step : Step hash does may s s') (h : ∀ i, P i s.kept (s.sessions i) (s.past i) (s.calls i))
    (called : ∀ i call, may s i call → P i s.kept (s.sessions i) (s.past i) none →
      P i s.kept (s.sessions i) (s.past i) (some (call, does i call)))
    (answered : ∀ {i call r next result kept t}, s.calls i = some (call, .ask r next) →
      Answers hash (s.Free i) (s.Clear i) s.kept (s.sessions i) r result kept t → s'.kept = kept →
      P i s.kept (s.sessions i) (s.past i) (some (call, .ask r next)) →
      P i kept t (t.remaining (s.past i)) (some (call, next result)) ∧
        ∀ j ≠ i, P j s.kept (s.sessions j) (s.past j) (s.calls j) →
          P j kept (s.sessions j) (s.past j) (s.calls j))
    (finished : ∀ {i call result}, P i s.kept (s.sessions i) (s.past i) (some (call, .done result)) →
      P i s.kept (s.sessions i) ((s.sessions i).remaining (call :: s.past i)) none) (j : ι) :
    P j s'.kept (s'.sessions j) (s'.past j) (s'.calls j) := by
  have here := h j
  cases step with
  | @call i c idle allowed =>
    by_cases same : j = i
    · subst same
      rw [idle] at here
      simpa only [Function.update_self] using called j c allowed here
    · simpa only [Function.update_of_ne same] using here
  | @answer i c r next asks result kept session answers =>
    have first := h i
    rw [asks] at first
    obtain ⟨goes, others⟩ := answered asks answers rfl first
    by_cases same : j = i
    · subst same
      simpa only [Function.update_self] using goes
    · simpa only [Function.update_of_ne same] using others j same here
  | @finish i c result done =>
    by_cases same : j = i
    · subst same
      rw [done] at here
      simpa only [Function.update_self] using finished here
    · simpa only [Function.update_of_ne same] using here

/-- What holds at the start, and stays so with every step, holds of all that can come about. -/
lemma Reachable.induction {P : System ι S K Call → Prop} (start : ∀ kept, P (.start kept))
    (step : ∀ {s s'}, P s → Step hash does may s s' → P s') (reach : Reachable hash does may s) : P s := by
  obtain ⟨kept, steps⟩ := reach
  induction steps with
  | refl => exact start kept
  | tail _ last ih => exact step ih last

/-- No two sessions ever hold one lock. -/
theorem exclusive_locks (reach : Reachable hash does may s) : s.Exclusive := by
  refine reach.induction (fun kept i j k mem => ?_) fun h step => step.exclusive h
  cases mem

end Exclusive

/-! ## One session at a time -/

section Arrival
variable {S : Store} {K : Type} {α β : Type}

/-- Whether a procedure can come to be at another one, with nothing that is kept on the way and without
leaving a transaction. -/
inductive Arrives (hash : String → K) (free : K → Prop) (clear : String → List Parameter → Prop)
    (kept : S.Kept) : Talk α → Session S K → Talk α → Session S K → Prop where
  | refl (p : Talk α) (s : Session S K) : Arrives hash free clear kept p s p s
  | ask {r : Request} {next : Except Failure r.Answer → Talk α} {result : Except Failure r.Answer}
    {q : Talk α} {s t u : Session S K} (answers : Answers hash free clear kept s r result kept t)
    (stays : s.inTransaction = true → t.inTransaction = true)
    (rest : Arrives hash free clear kept (next result) t q u) :
    Arrives hash free clear kept (.ask r next) s q u

namespace Arrives
variable {hash : String → K} {free : K → Prop} {clear : String → List Parameter → Prop} {kept : S.Kept}
  {p : Talk α} {s t u : Session S K}

/-- A request comes to its answer. -/
lemma request {r : Request} {result : Except Failure r.Answer}
    (answers : Answers hash free clear kept s r result kept t)
    (stays : s.inTransaction = true → t.inTransaction = true) :
    Arrives hash free clear kept (Procedure.request (I := talking) r) s (.done result) t :=
  .ask answers stays (.refl _ t)

/-- What follows a procedure goes on where the procedure has come to its end. -/
lemma bind {a : α} {f : α → Talk β} {q : Talk β} (first : Arrives hash free clear kept p s (.done (.ok a)) t)
    (rest : Arrives hash free clear kept (f a) t q u) : Arrives hash free clear kept (p >>= f) s q u := by
  generalize eq : (Procedure.done (.ok a) : Talk α) = goal at first
  induction first with
  | refl p s =>
    subst eq
    exact rest
  | ask answers stays _ ih => exact .ask answers stays (ih rest eq)

/-- A procedure that stops on the way does so whatever follows. -/
lemma stops {q : Talk α} {f : α → Talk β} (first : Arrives hash free clear kept p s q t) :
    Arrives hash free clear kept (p >>= f) s (q >>= f) t := by
  induction first with
  | refl p s => exact .refl _ s
  | ask answers stays _ ih => exact .ask answers stays ih

/-- An attempt comes as far as what is attempted. -/
lemma attempt {q : Talk α} (h : Arrives hash free clear kept p s q t) :
    Arrives hash free clear kept p.attempt s q.attempt t := by
  induction h with
  | refl p s => exact .refl _ s
  | ask answers stays _ ih => exact .ask answers stays ih

end Arrives

variable {ι : Type} [DecidableEq ι] {Call : Type}

/-- A system in which one session has come to be elsewhere. -/
def System.put (s : System ι S K Call) (i : ι) (call : Option (Call × Talk Unit)) (t : Session S K) :
    System ι S K Call :=
  { s with sessions := Function.update s.sessions i t, calls := Function.update s.calls i call }

/-- The session that was put elsewhere is there. -/
lemma System.put_sessions_self (s : System ι S K Call) (i : ι) (call : Option (Call × Talk Unit))
    (t : Session S K) : (s.put i call t).sessions i = t := by
  change Function.update s.sessions i t i = t
  rw [Function.update_self]

/-- The others are where they were. -/
lemma System.put_sessions_of_ne {s : System ι S K Call} {i j : ι} (call : Option (Call × Talk Unit))
    (t : Session S K) (other : j ≠ i) : (s.put i call t).sessions j = s.sessions j := by
  change Function.update s.sessions i t j = s.sessions j
  rw [Function.update_of_ne other]

/-- The same locks are free for it. -/
lemma System.put_free (s : System ι S K Call) (i : ι) (call : Option (Call × Talk Unit))
    (t : Session S K) : (s.put i call t).Free i = s.Free i := by
  funext k
  refine propext (forall₂_congr fun j other => ?_)
  rw [put_sessions_of_ne call t other]

/-- The same statements need not wait. -/
lemma System.put_clear (s : System ι S K Call) (i : ι) (call : Option (Call × Talk Unit))
    (t : Session S K) : (s.put i call t).Clear i = s.Clear i := by
  funext sql ps
  refine propext (forall₂_congr fun j other => ?_)
  rw [put_sessions_of_ne call t other]

/-- What was put twice is where it was put last. -/
lemma System.put_put (s : System ι S K Call) (i : ι) (call call' : Option (Call × Talk Unit))
    (t t' : Session S K) : (s.put i call t).put i call' t' = s.put i call' t' := by
  simp only [put, Function.update_idem]

/-- An answer with nothing that is kept, by which a transaction is not left. -/
lemma Step.stays {hash : String → K} {does : ι → Call → Talk Unit}
    {may : System ι S K Call → ι → Call → Prop} {s : System ι S K Call} {i : ι} {call : Call} {r : Request}
    {next : Except Failure r.Answer → Talk Unit} {result : Except Failure r.Answer} {t : Session S K}
    (asks : s.calls i = some (call, .ask r next))
    (answers : Answers hash (s.Free i) (s.Clear i) s.kept (s.sessions i) r result s.kept t)
    (stays : t.inTransaction = false → s.past i = []) :
    Step hash does may s (s.put i (some (call, next result)) t) := by
  have behind : t.remaining (s.past i) = s.past i := by
    rw [Session.remaining]
    cases inside : t.inTransaction with
    | true => rw [if_pos rfl]
    | false => rw [if_neg Bool.false_ne_true, stays inside]
  have same : Function.update s.past i (t.remaining (s.past i)) = s.past := by
    rw [behind, Function.update_eq_self]
  rw [System.put, ← same]
  exact .answer asks answers

/-- A step with nothing that is kept. -/
def QuietStep (hash : String → K) (does : ι → Call → Talk Unit) (may : System ι S K Call → ι → Call → Prop)
    (s s' : System ι S K Call) : Prop := Step hash does may s s' ∧ s'.kept = s.kept

/-- A system can come to be another one by what one session does. -/
structure Moves (hash : String → K) (does : ι → Call → Talk Unit)
    (may : System ι S K Call → ι → Call → Prop) (s s' : System ι S K Call) (i : ι) : Prop where
  quietly : Relation.ReflTransGen (QuietStep hash does may) s s'
  others : ∀ j ≠ i, s'.sessions j = s.sessions j ∧ s'.calls j = s.calls j ∧ s'.past j = s.past j

section Moves
variable {hash : String → K} {does : ι → Call → Talk Unit} {may : System ι S K Call → ι → Call → Prop}
  {s s' : System ι S K Call} {i : ι} {call : Call}

/-- What one session does is done in steps. -/
lemma Moves.steps (h : Moves hash does may s s' i) : Relation.ReflTransGen (Step hash does may) s s' :=
  Relation.ReflTransGen.mono (fun _ _ => And.left) _ _ h.quietly

/-- The data that are kept are the same afterwards. -/
lemma Moves.kept (h : Moves hash does may s s' i) : s'.kept = s.kept := by
  have quietly := h.quietly
  clear h
  induction quietly with
  | refl => rfl
  | tail _ step ih => exact step.2.trans ih

/-- Where a procedure can arrive, its session can: all that others have to do is nothing. -/
lemma Arrives.quietly {free : K → Prop} {clear : String → List Parameter → Prop} {kept : S.Kept}
    {session t : Session S K} {p q : Talk Unit} (arrives : Arrives hash free clear kept p session q t)
    (asks : s.calls i = some (call, p)) (here : s.sessions i = session) (keeps : s.kept = kept)
    (frees : s.Free i = free) (clears : s.Clear i = clear)
    (outside : session.inTransaction = false → s.past i = []) :
    Relation.ReflTransGen (QuietStep hash does may) s (s.put i (some (call, q)) t) := by
  induction arrives generalizing s with
  | refl p session =>
    have same : s.put i (some (call, p)) session = s := by
      rw [System.put, ← here, ← asks, Function.update_eq_self, Function.update_eq_self]
    rw [same]
  | @ask r next result q session t u answers stays rest ih =>
    subst here keeps frees clears
    have left (outside' : t.inTransaction = false) : s.past i = [] := by
      cases inside : (s.sessions i).inTransaction with
      | false => exact outside inside
      | true => cases outside'.symm.trans (stays inside)
    have first : QuietStep hash does may s (s.put i (some (call, next result)) t) :=
      ⟨.stays asks answers left, rfl⟩
    have later := ih (s := s.put i (some (call, next result)) t) (Function.update_self i _ _)
      (Function.update_self i _ _) rfl (s.put_free i _ _) (s.put_clear i _ _) left
    rw [System.put_put] at later
    exact later.head first

/-- A session that is about a call can go on as far as its procedure can. -/
lemma Arrives.moves {p q : Talk Unit} {t : Session S K} (asks : s.calls i = some (call, p))
    (outside : (s.sessions i).inTransaction = false → s.past i = [])
    (arrives : Arrives hash (s.Free i) (s.Clear i) s.kept p (s.sessions i) q t) :
    Moves hash does may s (s.put i (some (call, q)) t) i where
  quietly := arrives.quietly asks rfl rfl rfl rfl outside
  others _ other := ⟨s.put_sessions_of_ne _ t other, Function.update_of_ne other _ _, rfl⟩

/-- So can a session that makes a call. -/
lemma Arrives.moves_call {q : Talk Unit} {t : Session S K} (idle : s.calls i = none) (allowed : may s i call)
    (outside : (s.sessions i).inTransaction = false → s.past i = [])
    (arrives : Arrives hash (s.Free i) (s.Clear i) s.kept (does i call) (s.sessions i) q t) :
    Moves hash does may s (s.put i (some (call, q)) t) i where
  quietly := by
    have first : QuietStep hash does may s _ := ⟨.call idle allowed, rfl⟩
    have later : Relation.ReflTransGen (QuietStep hash does may)
        { s with calls := Function.update s.calls i (some (call, does i call)) } _ :=
      arrives.quietly (Function.update_self i _ _) rfl rfl rfl rfl outside
    rw [System.put, Function.update_idem] at later
    exact later.head first
  others _ other := ⟨s.put_sessions_of_ne _ t other, Function.update_of_ne other _ _, rfl⟩

/-- A call that is done comes to its end. -/
lemma Moves.finish {result : Except Failure Unit} (h : Moves hash does may s s' i)
    (done : s'.calls i = some (call, .done result)) :
    ∃ s₁, Moves hash does may s s₁ i ∧ s₁.sessions i = s'.sessions i ∧ s₁.calls i = none ∧
      s₁.past i = (s'.sessions i).remaining (call :: s'.past i) := by
  have last : QuietStep hash does may s' _ := ⟨.finish done, rfl⟩
  refine ⟨_, ⟨h.quietly.tail last, fun j other => ?_⟩, rfl, Function.update_self i _ _,
    Function.update_self i _ _⟩
  obtain ⟨session, calls, past⟩ := h.others j other
  exact ⟨session, (Function.update_of_ne other _ _).trans calls, (Function.update_of_ne other _ _).trans past⟩

end Moves

end Arrival

end Tenancy.Interleaving
