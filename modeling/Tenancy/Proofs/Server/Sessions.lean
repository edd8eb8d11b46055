import Tenancy.Proofs.Server.Since

/-!
# What becomes of sessions

A statement concerns the session of the client that sent it and no other one (`Alone.receive`). Only one
statement opens a transaction, and only where it is obeyed (`not_isOpen_receive`); two end one, whatever
the engine says to them (`not_isOpen_receive_end`).
-/

namespace Tenancy.Engine
variable {e : Engine}

/-- Whether a transaction is going on in a session. The end of the connection is the end of it. -/
def Session.IsOpen (session : Session e) : Prop :=
  session.closed = false ∧ session.transaction ≠ none

/-- A new session is in no transaction. -/
lemma Session.not_isOpen_new : ¬ ({} : Session e).IsOpen := fun isOpen => isOpen.2 rfl

namespace State
variable {s s' : State e} {k : Client} {r : Received} {sql : String} {ps : List Parameter}

/-- Whether a client was logged in. -/
def Knows (s : State e) (k : Client) : Prop := k.number ≤ s.attempts

/-- The two states differ in the session of one client at most, as far as sessions go. -/
structure Alone (k : Client) (s s' : State e) : Prop where
  attempts : s'.attempts = s.attempts
  others : ∀ d ≠ k, s'.sessions d = s.sessions d

/-- The end of a transaction leaves a session without one. -/
lemma obey_end {t : Transaction e} (inside : (s.sessions k).transaction = some t)
    (ends : (Reading.ofSql sql).isEnd) (ps : List Parameter) :
    ∃ s₁ : State e, s.obey k sql ps = .ok ({}, s₁.setSession k {}) ∧ s₁.sessions = s.sessions ∧
      s₁.attempts = s.attempts := by
  unfold obey
  rw [inside]
  cases reading : Reading.ofSql sql with
  | commit =>
    refine ⟨_, rfl, ?_⟩
    cases t.spoiled with
    | true => exact ⟨rfl, rfl⟩
    | false => exact ⟨rfl, rfl⟩
  | rollback => exact ⟨s, rfl, rfl, rfl⟩
  | _ =>
    rw [reading] at ends
    cases ends

/-- What would end a transaction ends it, even if it is refused. -/
lemma refuse_end {t : Transaction e} (inside : (s.sessions k).transaction = some t)
    (ends : (Reading.ofSql sql).isEnd) : s.refuse k sql = s.setSession k {} := by
  unfold refuse
  rw [inside]
  cases reading : Reading.ofSql sql with
  | commit => rfl
  | rollback => rfl
  | _ =>
    rw [reading] at ends
    cases ends

/-- Outside of a transaction no session changes, unless a transaction begins. -/
lemma obey_outside {reply : Reply} (outside : (s.sessions k).transaction = none)
    (h : s.obey k sql ps = .ok (reply, s')) :
    (Reading.ofSql sql = .begin ∧ ∃ session, s' = s.setSession k session) ∨
      (s'.sessions = s.sessions ∧ s'.attempts = s.attempts) := by
  unfold obey at h
  rw [outside] at h
  cases reading : Reading.ofSql sql with
  | begin =>
    rw [reading] at h
    cases h
    exact .inl ⟨rfl, _, rfl⟩
  | savepoint name | rollbackTo name | release name =>
    rw [reading] at h
    cases h
  | commit | rollback | session | work =>
    rw [reading] at h
    cases h
    exact .inr ⟨rfl, rfl⟩

namespace Alone

/-- Nothing happens to any session. -/
lemma refl (s : State e) : Alone k s s := ⟨rfl, fun _ _ => rfl⟩

/-- The session of a client is the client's own matter. -/
lemma setSession (h : Alone k s s') (session : Session e) : Alone k s (s'.setSession k session) :=
  ⟨h.attempts, fun d other => (if_neg other).trans (h.others d other)⟩

/-- So is what is obeyed there. -/
lemma obey {reply : Reply} (h : s.obey k sql ps = .ok (reply, s')) : Alone k s s' := by
  cases inside : (s.sessions k).transaction with
  | none =>
    rcases obey_outside inside h with ⟨-, session, rfl⟩ | ⟨sessions, attempts⟩
    · exact (refl s).setSession _
    · exact ⟨attempts, fun d _ => congrFun sessions d⟩
  | some t =>
    by_cases ends : (Reading.ofSql sql).isEnd
    · obtain ⟨s₁, obeys, sessions, attempts⟩ := obey_end inside ends ps
      rw [obeys] at h
      cases h
      have same : Alone k s s₁ := ⟨attempts, fun d _ => congrFun sessions d⟩
      exact same.setSession _
    · obtain ⟨t', -, rfl⟩ := exists_of_obey inside (by simpa using ends) h
      exact (refl s).setSession _

/-- So is what is refused. -/
lemma refuse (s : State e) (sql : String) : Alone k s (s.refuse k sql) := by
  unfold State.refuse
  split
  · exact (refl s).setSession _
  · exact (refl s).setSession _
  · exact (refl s).setSession _
  · exact refl s

/-- Whatever comes of a statement concerns its sender's session alone. -/
theorem receive (s : State e) (k : Client) (r : Received) (misfit : Option Mismatch) (sql : String)
    (ps : List Parameter) : Alone k s (s.receive k r misfit sql ps).2 := by
  have noted {s' : State e} (h : Alone k (s.note k r) s') : Alone k s s' := ⟨h.attempts, h.others⟩
  rcases receive_cases s k r misfit sql ps with ⟨-, eq⟩ | ⟨-, cases⟩
  · rw [eq]
    exact refl s
  · rcases cases with ⟨eq, -⟩ | ⟨report, eq⟩ | ⟨m, eq⟩ | ⟨reply, s', obeys, eq⟩
    · rw [eq]
      exact noted ((refl _).setSession _)
    · rw [eq]
      exact noted (refuse _ sql)
    · rw [eq]
      exact noted (refl _)
    · rw [eq]
      exact noted (obey obeys)

/-- A statement without parameters concerns its sender's session alone. -/
lemma send (s : State e) (k : Client) (sql : String) : Alone k s (Server.send k sql s).2 :=
  receive s k _ none sql []

/-- So is a statement that is run. -/
lemma run (s : State e) (k : Client) (sql : String) (ps : List Parameter) :
    Alone k s (Server.run k sql ps s).2 := receive s k _ _ sql ps

/-- One thing after the other is the client's own matter. -/
lemma trans {s'' : State e} (h : Alone k s s') (g : Alone k s' s'') : Alone k s s'' :=
  ⟨g.attempts.trans h.attempts, fun d other => (g.others d other).trans (h.others d other)⟩

end Alone

/-- Outside of a transaction only its beginning opens one. -/
lemma not_isOpen_obey {reply : Reply} (begins : Reading.ofSql sql ≠ .begin)
    (outside : (s.sessions k).transaction = none) (h : s.obey k sql ps = .ok (reply, s')) :
    ¬ (s'.sessions k).IsOpen := by
  rcases obey_outside outside h with ⟨begin, -⟩ | ⟨sessions, -⟩
  · exact absurd begin begins
  · rw [sessions]
    exact fun isOpen => isOpen.2 outside

/-- A statement opens no transaction unless it is the beginning of one and is obeyed. -/
theorem not_isOpen_receive {misfit : Option Mismatch} (closed : ¬ (s.sessions k).IsOpen)
    (fails : Reading.ofSql sql ≠ .begin ∨ ∀ reply, (s.receive k r misfit sql ps).1 ≠ .ok reply) :
    ¬ ((s.receive k r misfit sql ps).2.sessions k).IsOpen := by
  rcases receive_cases s k r misfit sql ps with ⟨-, eq⟩ | ⟨opened, cases⟩
  · rw [eq]
    exact closed
  · have outside : (s.sessions k).transaction = none := by
      by_contra inside
      exact closed ⟨opened, inside⟩
    rcases cases with ⟨eq, -⟩ | ⟨report, eq⟩ | ⟨m, eq⟩ | ⟨reply, s', obeys, eq⟩
    · rw [eq, sessions_setSession]
      exact fun isOpen => isOpen.2 rfl
    · rw [eq, refuse_outside (by rwa [sessions_note])]
      exact closed
    · rw [eq]
      exact closed
    · rw [eq]
      have begins := fails.resolve_right fun none => none reply (by rw [eq])
      exact not_isOpen_obey begins (by rwa [sessions_note]) obeys

/-- A client that is in no transaction does not come into one by a failure. -/
lemma not_isOpen_send {fault : StatementFault} (closed : ¬ (s.sessions k).IsOpen)
    (h : (Server.send k sql s).1 = .error fault) :
    ¬ ((Server.send k sql s).2.sessions k).IsOpen := by
  refine not_isOpen_receive closed (.inr fun reply eq => ?_)
  rw [send_eq, eq] at h
  cases h

/-- The end of a transaction ends it, whatever the engine says. -/
theorem not_isOpen_receive_end (ends : (Reading.ofSql sql).isEnd) :
    ¬ ((s.receive k r none sql ps).2.sessions k).IsOpen := by
  have obeyed {s s' : State e} {reply : Reply} (obeys : s.obey k sql ps = .ok (reply, s')) :
      ¬ (s'.sessions k).IsOpen := by
    cases inside : (s.sessions k).transaction with
    | none =>
      refine not_isOpen_obey (fun begins => ?_) inside obeys
      rw [begins] at ends
      cases ends
    | some t =>
      obtain ⟨s₁, eq, -, -⟩ := obey_end inside ends ps
      rw [eq] at obeys
      cases obeys
      rw [sessions_setSession]
      exact Session.not_isOpen_new
  have refused (s : State e) : ¬ ((s.refuse k sql).sessions k).IsOpen := by
    cases inside : (s.sessions k).transaction with
    | none =>
      rw [refuse_outside inside]
      exact fun isOpen => isOpen.2 inside
    | some t =>
      rw [refuse_end inside ends, sessions_setSession]
      exact Session.not_isOpen_new
  -- No parameters are sent along, so they cannot be why the engine does not end it.
  unfold receive
  split
  · next closed => exact fun isOpen => absurd (closed.symm.trans isOpen.1) (by decide)
  · dsimp only
    split
    · rw [sessions_setSession]
      exact fun isOpen => isOpen.2 rfl
    · exact refused _
    · next none => cases none
    · split
      · next eq => exact obeyed eq
      · exact refused _

/-- Logging in concerns the session of the new client alone, who is in no transaction. -/
lemma logIn_cases (l : Login) (s : State e) :
    (s.logIn l).2.attempts = s.attempts + 1 ∧
      (((s.logIn l).1 = none ∧ (s.logIn l).2.sessions = s.sessions) ∨
        ((s.logIn l).1 = some ⟨s.attempts + 1⟩ ∧
          ∀ d, (s.logIn l).2.sessions d = if d = ⟨s.attempts + 1⟩ then {} else s.sessions d)) := by
  unfold logIn
  split
  · exact ⟨rfl, .inr ⟨rfl, fun _ => rfl⟩⟩
  · exact ⟨rfl, .inl ⟨rfl, rfl⟩⟩

end State
end Tenancy.Engine
