import Tenancy.Proofs.Connection.Outcome
import Tenancy.Proofs.Server.Since

/-!
# Watching a transaction

What becomes of one client's transaction while statements are sent that do not end it. `Watch.Inside`
holds after each of them, `Watch.Clean` after each that succeeds: a refusal spoils the transaction, and
only the way back to a savepoint makes up for it. Both are about a property of transactions;
`Watch.Inside.run` is the step for any such property, and `run_work`, `run_savepoint`, `run_release` and
`run_rollbackTo` are its cases for properties of the savepoints and the data. What a statement makes of
the transaction that the engine is willing to take says `Watch.Inside.run_willing`. `State.Since.begin`
is how a transaction comes to be watched; `Clean.commit` and `Inside.rollback` are how it ends.
-/

namespace Tenancy.Engine
variable {e : Engine}

/-- Whether the engine loses connections. -/
def Closes (e : Engine) : Prop := ∃ n sql, e.fate n sql = .close

/-- An engine that loses no connection, and takes some statements whenever they make sense. -/
structure Willing (e : Engine) (sqls : List String) : Prop where
  stays : ¬ e.Closes
  accepts : ∀ sql ∈ sqls, ∀ n, e.fate n sql = .accept
  fits : ∀ sql ∈ sqls, e.misfit sql [] = none

/-- A state to compare with, the client whose transaction is watched, and what may be received from
whom. -/
structure Watch (e : Engine) where
  start : State e
  client : Client
  admits : Client → Received → Prop

namespace Watch
variable {w : Watch e} {s : State e} {T T' U : Transaction e → Prop}

/-- The client is in a transaction with the property `T`, unless its connection was lost. -/
structure Inside (w : Watch e) (T : Transaction e → Prop) (s : State e) : Prop
    extends State.Since w.admits w.start s where
  inside : ((s.sessions w.client).closed = true ∧ e.Closes) ∨
    ((s.sessions w.client).closed = false ∧
      ∃ t, (s.sessions w.client).transaction = some t ∧ T t)

/-- The client is in a transaction with the property `T` that is not spoiled. -/
structure Clean (w : Watch e) (T : Transaction e → Prop) (s : State e) : Prop
    extends State.Since w.admits w.start s where
  connected : (s.sessions w.client).closed = false
  inside : ∃ t, (s.sessions w.client).transaction = some t ∧ T t ∧ t.spoiled = false

/-- Less may be told of the transaction. -/
lemma Inside.mono (h : w.Inside T s) (sub : ∀ t, T t → T' t) : w.Inside T' s := by
  refine ⟨h.toSince, ?_⟩
  rcases h.inside with lost | ⟨connected, t, eq, holds⟩
  · exact .inl lost
  · exact .inr ⟨connected, t, eq, sub t holds⟩

/-- So it may of one that is clean. -/
lemma Clean.mono (h : w.Clean T s) (sub : ∀ t, T t → T' t) : w.Clean T' s := by
  obtain ⟨t, eq, holds, sound⟩ := h.inside
  exact ⟨h.toSince, h.connected, t, eq, sub t holds, sound⟩

/-- A client with a clean transaction is inside of one. -/
lemma Clean.toInside (h : w.Clean T s) : w.Inside T s := by
  obtain ⟨t, eq, holds, -⟩ := h.inside
  exact ⟨h.toSince, .inr ⟨h.connected, t, eq, holds⟩⟩

/-- What a statement that does not end the transaction makes of it, and how the engine replies. -/
theorem Inside.run_reply {U : Reply → Transaction e → Prop} (h : w.Inside T s) {sql : String}
    {ps : List Parameter} (stays : (Reading.ofSql sql).isEnd = false)
    (sends : w.admits w.client (.prepared sql (some ps)))
    (keep : ∀ t, T t → T' t) (spoil : ∀ t, T t → T' { t with spoiled := true })
    (obeys : ∀ t reply t', T t → t.obey sql ps = .ok (reply, t') → U reply t') :
    Leaves (fun reply => w.Clean (U reply)) (w.Inside T') (Server.run w.client sql ps s) := by
  rw [State.run_eq]
  rcases State.receive_cases s w.client (.prepared sql (some ps)) (e.misfit sql ps) sql ps with
    ⟨closed, eq⟩ | ⟨opened, cases⟩
  · rw [eq]
    exact h.mono keep
  · obtain ⟨t, inside, holds⟩ : ∃ t, (s.sessions w.client).transaction = some t ∧ T t := by
      rcases h.inside with ⟨closed, -⟩ | ⟨-, inside⟩
      · rw [opened] at closed
        cases closed
      · exact inside
    have noted := h.toSince.note sends
    have still : ((s.note w.client (.prepared sql (some ps))).sessions w.client).transaction =
        some t := inside
    rcases cases with ⟨eq, closes⟩ | ⟨report, eq⟩ | ⟨m, eq⟩ | ⟨reply, s', done, eq⟩
    · rw [eq]
      exact ⟨noted.setSession _, .inl ⟨by simp, closes⟩⟩
    · rw [eq, State.refuse_inside still stays]
      exact ⟨noted.setSession _, .inr ⟨by simp, _, by rw [State.sessions_setSession],
        spoil t holds⟩⟩
    · rw [eq]
      exact ⟨noted, .inr ⟨opened, t, inside, keep t holds⟩⟩
    · rw [eq]
      obtain ⟨t', obeyed, rfl⟩ := State.exists_of_obey still stays done
      exact ⟨noted.setSession _, by simp, t', by simp, obeys t reply t' holds obeyed,
        Transaction.spoiled_of_obey obeyed⟩

/-- What a statement that does not end the transaction makes of it. -/
theorem Inside.run (h : w.Inside T s) {sql : String} {ps : List Parameter}
    (stays : (Reading.ofSql sql).isEnd = false) (sends : w.admits w.client (.prepared sql (some ps)))
    (keep : ∀ t, T t → T' t) (spoil : ∀ t, T t → T' { t with spoiled := true })
    (obeys : ∀ t reply t', T t → t.obey sql ps = .ok (reply, t') → U t') :
    Leaves (fun _ => w.Clean U) (w.Inside T') (Server.run w.client sql ps s) :=
  h.run_reply stays sends keep spoil obeys

/-- Such a transaction is not spoiled. -/
lemma Clean.inside_sound (h : w.Clean T s) : w.Inside (fun t => T t ∧ t.spoiled = false) s := by
  obtain ⟨t, eq, holds, sound⟩ := h.inside
  exact ⟨h.toSince, .inr ⟨h.connected, t, eq, holds, sound⟩⟩

/-- What a statement makes of the transaction that the engine takes and that makes sense. -/
theorem Clean.run_accept {U : Reply → Transaction e → Prop} (h : w.Clean T s) {sql : String}
    {ps : List Parameter} (accept : e.fate s.log.length sql = .accept)
    (fits : e.misfit sql ps = none) (stays : (Reading.ofSql sql).isEnd = false)
    (sends : w.admits w.client (.prepared sql (some ps)))
    (obeys : ∀ t, T t → t.spoiled = false → ∃ reply t', t.obey sql ps = .ok (reply, t') ∧ U reply t') :
    Leaves (fun reply => w.Clean (U reply)) (fun _ => False) (Server.run w.client sql ps s) := by
  obtain ⟨t, inside, holds, sound⟩ := h.inside
  obtain ⟨reply, t', obeyed, after⟩ := obeys t holds sound
  have still : ((s.note w.client (.prepared sql (some ps))).sessions w.client).transaction =
      some t := inside
  rw [State.run_eq, fits, State.receive_accept h.connected accept, State.obey_inside still stays,
    obeyed]
  exact ⟨(h.toSince.note sends).setSession _, by simp, t', by simp, after,
    Transaction.spoiled_of_obey obeyed⟩

/-- What a statement makes of the transaction that the engine is willing to take and that makes sense. -/
theorem Inside.run_willing (h : w.Inside T s) {sqls : List String} (willing : e.Willing sqls)
    {sql : String} (mem : sql ∈ sqls) (stays : (Reading.ofSql sql).isEnd = false)
    (sends : w.admits w.client (.prepared sql (some [])))
    (obeys : ∀ t, T t → ∃ reply t', t.obey sql [] = .ok (reply, t') ∧ U t') :
    Leaves (fun _ => w.Clean U) (fun _ => False) (Server.run w.client sql [] s) := by
  obtain ⟨opened, t, inside, holds⟩ := h.inside.resolve_left fun lost => willing.stays lost.2
  obtain ⟨reply, t', obeyed, after⟩ := obeys t holds
  have still : ((s.note w.client (.prepared sql (some []))).sessions w.client).transaction =
      some t := inside
  rw [State.run_eq, willing.fits sql mem, State.receive_accept opened (willing.accepts sql mem _),
    State.obey_inside still stays, obeyed]
  exact ⟨(h.toSince.note sends).setSession _, by simp, t', by simp, after,
    Transaction.spoiled_of_obey obeyed⟩

/-- The savepoints of a transaction are as `S` says and its data as `P` says. -/
def Holds (S : List (String × e.Data) → Prop) (P : e.Data → Prop) (t : Transaction e) : Prop :=
  S t.savepoints ∧ P t.data

section Holds
variable {S : List (String × e.Data) → Prop} {P : e.Data → Prop} {sql name : String}
  {ps : List Parameter}

/-- A statement about data leaves the savepoints alone. -/
lemma Inside.run_work (h : w.Inside (Holds S P) s) (reading : Reading.ofSql sql = .work)
    (sends : w.admits w.client (.prepared sql (some ps))) (frame : ∀ d, P d → P (e.effect sql ps d).2) :
    Leaves (fun _ => w.Clean (Holds S P)) (w.Inside (Holds S P)) (Server.run w.client sql ps s) := by
  refine h.run (by rw [reading]; rfl) sends (fun _ holds => holds) (fun _ holds => holds) ?_
  intro t reply t' holds done
  rw [t.obey_work ps reading] at done
  split at done
  · cases done
  · cases done
    exact ⟨holds.1, frame _ holds.2⟩

/-- A savepoint is set, or the transaction is spoiled. -/
lemma Inside.run_savepoint {S' : List (String × e.Data) → Prop} (h : w.Inside (Holds S P) s)
    (reading : Reading.ofSql sql = .savepoint name)
    (sends : w.admits w.client (.prepared sql (some ps)))
    (put : ∀ d stack, P d → S stack → S' ((name, d) :: stack)) :
    Leaves (fun _ => w.Clean (Holds S' P)) (w.Inside (Holds S P)) (Server.run w.client sql ps s) := by
  refine h.run (by rw [reading]; rfl) sends (fun _ holds => holds) (fun _ holds => holds) ?_
  intro t reply t' holds done
  rw [t.obey_savepoint ps reading] at done
  split at done
  · cases done
  · cases done
    exact ⟨put _ _ holds.2 holds.1, holds.2⟩

/-- A savepoint is taken away with all those on top of it. -/
lemma Inside.run_release {S' : List (String × e.Data) → Prop} (h : w.Inside (Holds S P) s)
    (reading : Reading.ofSql sql = .release name)
    (sends : w.admits w.client (.prepared sql (some ps)))
    (take : ∀ stack, S stack →
      ∃ former earlier, stack.dropWhile (·.1 ≠ name) = former :: earlier ∧ S' earlier) :
    Leaves (fun _ => w.Clean (Holds S' P)) (w.Inside (Holds S P)) (Server.run w.client sql ps s) := by
  refine h.run (by rw [reading]; rfl) sends (fun _ holds => holds) (fun _ holds => holds) ?_
  intro t reply t' holds done
  obtain ⟨former, earlier, reach, rest⟩ := take _ holds.1
  rw [t.obey_release ps reading reach] at done
  split at done
  · cases done
  · cases done
    exact ⟨rest, holds.2⟩

/-- The way back to a savepoint leads to the data it has, and takes away those on top of it. -/
lemma Inside.run_rollbackTo {S' : List (String × e.Data) → Prop} {P' : e.Data → Prop}
    (h : w.Inside (Holds S P) s)
    (reading : Reading.ofSql sql = .rollbackTo name) (sends : w.admits w.client (.prepared sql (some ps)))
    (back : ∀ stack, S stack → ∃ former earlier, stack.dropWhile (·.1 ≠ name) = former :: earlier ∧
      S' (former :: earlier) ∧ P' former.2) :
    Leaves (fun _ => w.Clean (Holds S' P')) (w.Inside (Holds S P))
      (Server.run w.client sql ps s) := by
  refine h.run (by rw [reading]; rfl) sends (fun _ holds => holds) (fun _ holds => holds) ?_
  intro t reply t' holds done
  obtain ⟨former, earlier, reach, rest⟩ := back _ holds.1
  rw [t.obey_rollbackTo ps reading reach] at done
  cases done
  exact rest

end Holds

/-! ## The ends of a transaction -/

/-- Nothing was kept since the start but the transaction of the client, which it has ended. -/
structure Committed (w : Watch e) (T : Transaction e → Prop) (s : State e) : Prop where
  kept : ∃ t, T t ∧ s.kept = t.data ∧ s.commits = (w.client, t.data) :: w.start.commits
  connected : (s.sessions w.client).closed = false
  ended : (s.sessions w.client).transaction = none
  log : ∃ new, s.log = (w.client, .simple "COMMIT") :: new ++ w.start.log ∧
    ∀ x ∈ new, w.admits x.1 x.2

/-- The end of a transaction keeps what was done in it, or nothing where the end fails. -/
theorem Clean.commit (h : w.Clean T s) (admitted : w.admits w.client (.simple "COMMIT")) :
    Leaves (fun _ => w.Committed T) (State.Since w.admits w.start)
      (Server.send w.client "COMMIT" s) := by
  obtain ⟨t, inside, holds, sound⟩ := h.inside
  refine h.toSince.send_leaves admitted fun reply s' obeys => ?_
  rw [State.obey_commit (by rw [State.sessions_note, inside]), sound] at obeys
  cases obeys
  obtain ⟨new, log, all⟩ := h.log
  refine ⟨⟨t, holds, rfl, ?_⟩, by rw [State.sessions_setSession],
    by rw [State.sessions_setSession], new, ?_, all⟩
  · exact congrArg ((w.client, t.data) :: ·) h.commits
  · exact congrArg ((w.client, .simple "COMMIT") :: ·) log

/-- Undoing a transaction keeps nothing, even if it fails. -/
theorem Inside.rollback (h : w.Inside T s) (admitted : w.admits w.client (.simple "ROLLBACK")) :
    State.Since w.admits w.start (Server.send w.client "ROLLBACK" s).2 := by
  refine Leaves.always (h.toSince.send_leaves admitted fun reply s' obeys => ?_)
  unfold State.obey at obeys
  cases inside : (s.sessions w.client).transaction with
  | none =>
    rw [State.sessions_note, inside] at obeys
    cases obeys
    exact h.toSince.note admitted
  | some t =>
    rw [State.sessions_note, inside] at obeys
    cases obeys
    exact (h.toSince.note admitted).setSession _

end Watch

/-- The beginning of a transaction keeps nothing. It is in vain, or the transaction is clean from then on:
a new one, unless the client had one open. -/
theorem State.Since.begin {admits : Client → Received → Prop} {s₀ s : State e} {k : Client}
    {T : Transaction e → Prop} (h : State.Since admits s₀ s) (admitted : admits k (.simple "BEGIN"))
    (former : ∀ t, (s.sessions k).transaction = some t → T t) (new : T { data := s.kept }) :
    Leaves (fun _ => (⟨s₀, k, admits⟩ : Watch e).Clean T) (State.Since admits s₀)
      (Server.send k "BEGIN" s) := by
  have noted := h.note admitted
  have reading : Reading.ofSql "BEGIN" = .begin := rfl
  refine h.send_leaves admitted fun reply s' obeys => ?_
  cases inside : (s.sessions k).transaction with
  | none =>
    unfold obey at obeys
    rw [sessions_note, inside, reading] at obeys
    cases obeys
    exact ⟨noted.setSession _, by simp, { data := s.kept }, by rw [sessions_setSession]; rfl,
      new, rfl⟩
  | some t =>
    obtain ⟨t', done, rfl⟩ := exists_of_obey (by rw [sessions_note, inside])
      (by rw [reading]; rfl) obeys
    obtain rfl := Transaction.eq_of_obey (.inl reading) done
    exact ⟨noted.setSession _, by simp, t', by rw [sessions_setSession], former t' inside,
      Transaction.spoiled_of_obey done⟩

end Tenancy.Engine
