import Tenancy.Proofs.Connection.Requests

/-!
# What leaves cursors alone

A connection remembers the cursor of the last statement that succeeded, and the world keeps the rows that are
still to be fetched. Only `execute` and the fetching of rows touch either. `execute` does so at its very end:
what comes before, `submit`, sends the statement and can fail, and what comes after, `conclude`, cannot
(`execute_eq`). So a statement that fails leaves all cursors as they were, and one that succeeds has a reply of the
server (`exists_of_submit`).
-/

namespace Tenancy
variable {σ : Type} {α β : Type}

/-! ## Actions -/

namespace Action

/-- Whether an action leaves the rows that are still to be fetched. -/
def SparesRows (a : Action σ α) : Prop := ∀ w, (outcome a w).2.results = w.results

namespace SparesRows
variable {a : Action σ α}

/-- What gives a value spares the rows. -/
lemma pure (x : α) : SparesRows (pure x : Action σ α) := fun _ => rfl

/-- So does a failure. -/
lemma throw (e : Failure) : SparesRows (throw e : Action σ α) := fun _ => rfl

/-- So does a look at the world. -/
lemma get : SparesRows (get : Action σ (World σ)) := fun _ => rfl

/-- So does the server's part. -/
lemma served (f : σ → α × σ) : SparesRows (served f) := fun _ => rfl

/-- Two actions that spare the rows do so one after the other. -/
lemma bind (h : a.SparesRows) {f : α → Action σ β} (next : ∀ x, (f x).SparesRows) :
    SparesRows (a >>= f) := by
  intro w
  have first := h w
  rw [outcome_bind]
  rcases eq : outcome a w with ⟨e | x, w'⟩
  · rwa [eq] at first
  · rw [eq] at first
    exact (next x w').trans first

variable [Server σ]

/-- To send a statement spares the rows that were fetched before. -/
lemma send (k : Client) (sql : String) : SparesRows (σ := σ) (k.send sql) := by
  refine bind (served _) fun result => ?_
  cases result with
  | ok u => exact pure ()
  | error fault => exact throw _

/-- So does running one with parameters. -/
lemma run (k : Client) (sql : String) (ps : List Parameter) : SparesRows (σ := σ) (k.run sql ps) := by
  refine bind (served _) fun result => ?_
  cases result with
  | ok reply => exact pure reply
  | error fault => exact throw _

omit [Server σ] in
/-- So does a change of a pool. -/
lemma update (number : Nat) (f : Pool → Pool) : SparesRows (σ := σ) (Pool.update number f) := fun _ => rfl

/-- So does opening a client. -/
lemma openClient (p : Pool) : SparesRows (σ := σ) p.openClient := by
  refine bind (served _) fun client => ?_
  cases client with
  | some k => exact pure k
  | none => exact throw _

/-- So does taking one from a pool. -/
lemma take (number : Nat) : SparesRows (σ := σ) (Pool.take number) := by
  refine bind (bind get fun w => pure _) fun pool => ?_
  cases pool with
  | none => exact throw _
  | some p =>
    dsimp -zeta only
    extract_lets rest
    have spares (u : PUnit) : SparesRows (rest u) := by
      refine bind get fun w => ?_
      split
      · exact bind (update _ _) fun _ => pure _
      · exact bind (update _ _) fun _ => bind (openClient p) fun k => bind (update _ _) fun _ => pure k
    split
    · exact bind (throw _) spares
    · exact spares ⟨⟩

end SparesRows
end Action

namespace Connection

/-! ## Statements and their replies -/

section Submit
variable [Server σ]

/-- Sends a statement and gets the reply of the server, as `execute` does before there is a cursor. -/
def submit (sql : String) (parameters : List Parameter) : Step σ Reply := do
  let c := (← get).connection
  let opens := !c.autocommit && !c.inTransaction
  let client ← client
  if opens then within (client.send "BEGIN")
  let result ← attempt (within (client.run (c.adapt sql) parameters))
  if opens then change fun c => { c with inTransaction := true }
  if c.autocommit && !c.inTransaction then release
  ExceptT.mk (pure result)

/-- Makes a cursor for a reply. -/
def conclude (reply : Reply) : Step σ Cursor := do
  let cursor ← within (Cursor.ofReply reply)
  change fun c => { c with last := some cursor }
  return cursor

/-- The cursor is made after all that can fail. -/
lemma execute_eq (sql : String) (parameters : List Parameter) :
    (execute sql parameters : Step σ Cursor) = submit sql parameters >>= conclude := by
  unfold execute submit conclude
  simp only [bind_assoc]
  refine bind_congr fun s => bind_congr fun client => ?_
  split
  · simp only [bind_assoc]
    refine bind_congr fun _ => bind_congr fun result => bind_congr fun _ => ?_
    split <;> simp only [bind_assoc]
  · simp only [bind_assoc]
    refine bind_congr fun result => ?_
    split <;> simp only [bind_assoc]

omit [Server σ] in
/-- A reply becomes a new cursor, which is the last one. -/
lemma outcome_conclude (reply : Reply) (s : Scene σ) :
    outcome (conclude reply) s =
      (.ok ⟨s.world.results.length, reply.columns, reply.rowCount⟩, concluded s (.ok reply)) := rfl

/-- A statement is sent, and the reply becomes a new cursor. -/
lemma outcome_execute_submit (sql : String) (parameters : List Parameter) (s : Scene σ) :
    outcome (execute sql parameters) s =
      match outcome (submit sql parameters) s with
      | (.ok reply, s') =>
        (.ok ⟨s'.world.results.length, reply.columns, reply.rowCount⟩, concluded s' (.ok reply))
      | (.error e, s') => (.error e, s') := by
  rw [execute_eq, outcome_bind]
  rcases outcome (submit sql parameters) s with ⟨failure | reply, s'⟩
  · rfl
  · exact outcome_conclude reply s'

omit [Server σ] in
/-- A value comes from the value of what was done first. -/
lemma exists_of_bind {a : Step σ α} {f : α → Step σ β} {s s' : Scene σ} {b : β}
    (h : outcome (a >>= f) s = (.ok b, s')) :
    ∃ x s₁, outcome a s = (.ok x, s₁) ∧ outcome (f x) s₁ = (.ok b, s') := by
  rw [outcome_bind] at h
  rcases first : outcome a s with ⟨e | x, s₁⟩
  · rw [first] at h
    cases h
  · rw [first] at h
    exact ⟨x, s₁, rfl, h⟩

omit [Server σ] in
/-- What may be done first does not matter to it. -/
lemma exists_of_optional {c : Prop} [Decidable c] {first : Step σ Unit} {f : Unit → Step σ β} {s s' : Scene σ}
    {b : β} (h : outcome (if c then first >>= f else f ()) s = (.ok b, s')) :
    ∃ s₁, outcome (f ()) s₁ = (.ok b, s') := by
  split at h
  · obtain ⟨u, s₁, -, later⟩ := exists_of_bind h
    exact ⟨s₁, later⟩
  · exact ⟨s, h⟩

/-- A reply is what the server said to the statement. -/
lemma exists_of_submit {sql : String} {parameters : List Parameter} {s s' : Scene σ} {reply : Reply}
    (h : outcome (submit sql parameters) s = (.ok reply, s')) :
    ∃ (k : Client) (server : σ), (Server.run k (s.connection.adapt sql) parameters server).1 = .ok reply := by
  obtain ⟨s₀, s₁, got, started⟩ := exists_of_bind h
  cases got
  extract_lets c opens at started
  obtain ⟨k, s₂, -, ready⟩ := exists_of_bind started
  obtain ⟨s₃, opened⟩ := exists_of_optional ready
  obtain ⟨result, s₄, ran, replied⟩ := exists_of_bind opened
  obtain ⟨s₅, inside⟩ := exists_of_optional replied
  obtain ⟨s₆, given⟩ := exists_of_optional inside
  cases given
  refine ⟨k, s₃.world.server, ?_⟩
  rw [outcome_attempt, outcome_within, Client.outcome_run] at ran
  have same := Except.ok.inj (Prod.mk.inj ran).1
  rcases said : Server.run k (s.connection.adapt sql) parameters s₃.world.server with ⟨fault | reply', server⟩
  · rw [show c = s.connection from rfl, said] at same
    cases same
  · rw [show c = s.connection from rfl, said] at same
    exact congrArg Except.ok (Except.ok.inj same)

end Submit

/-! ## Steps -/

/-- Whether a step leaves the rows that are still to be fetched, and the cursor of the last statement. -/
def SparesCursors (a : Step σ α) : Prop :=
  ∀ s, (outcome a s).2.world.results = s.world.results ∧ (outcome a s).2.connection.last = s.connection.last

namespace SparesCursors
variable {a : Step σ α}

/-- What gives a value spares the cursors. -/
lemma pure (x : α) : SparesCursors (pure x : Step σ α) := fun _ => ⟨rfl, rfl⟩

/-- So does a failure. -/
lemma throw (e : Failure) : SparesCursors (throw e : Step σ α) := fun _ => ⟨rfl, rfl⟩

/-- So does a look at the scene. -/
lemma get : SparesCursors (get : Step σ (Scene σ)) := fun _ => ⟨rfl, rfl⟩

/-- So does any result that is known. -/
lemma mk (result : Except Failure α) : SparesCursors (ExceptT.mk (Pure.pure result) : Step σ α) :=
  fun _ => ⟨rfl, rfl⟩

/-- What spares the rows in the world spares the cursors. -/
lemma within {a : Action σ α} (h : a.SparesRows) : SparesCursors (within a) := fun s => ⟨h s.world, rfl⟩

/-- So does a change of the connection that leaves the last cursor. -/
lemma change {f : Connection → Connection} (h : ∀ c, (f c).last = c.last) :
    SparesCursors (σ := σ) (change f) := fun s => ⟨rfl, h s.connection⟩

/-- So does an attempt at what does. -/
lemma attempt (h : SparesCursors a) : SparesCursors (attempt a) := h

/-- Two steps that spare the cursors do so one after the other. -/
lemma bind (h : SparesCursors a) {f : α → Step σ β} (next : ∀ x, SparesCursors (f x)) :
    SparesCursors (a >>= f) := by
  intro s
  have first := h s
  rw [outcome_bind]
  rcases eq : outcome a s with ⟨e | x, s'⟩
  · rwa [eq] at first
  · rw [eq] at first
    have later := next x s'
    exact ⟨later.1.trans first.1, later.2.trans first.2⟩

/-- What may be done first. -/
lemma optional {c : Prop} [Decidable c] {first : Step σ Unit} (h : SparesCursors first)
    {f : Unit → Step σ β} (next : ∀ u, SparesCursors (f u)) :
    SparesCursors (if c then first >>= f else f ()) := by
  split
  · exact bind h next
  · exact next ()

/-- To give a client back spares the cursors. -/
lemma release : SparesCursors (σ := σ) release := by
  refine bind get fun s => ?_
  split
  · exact bind (change fun _ => rfl) fun _ => within (.update _ _)
  · exact pure ()

variable [Server σ]

/-- So does getting one. -/
lemma client : SparesCursors (σ := σ) client := by
  refine bind get fun s => ?_
  extract_lets c
  split
  · exact pure _
  · exact pure _
  · refine bind (within (.take _)) fun k => ?_
    extract_lets rest
    have spares (u : Unit) : SparesCursors (rest u) := bind (change fun _ => rfl) fun _ => pure k
    split
    · refine bind (attempt (within (.send _ _))) fun told => ?_
      cases told with
      | error failure => exact bind (within (.update _ _)) fun _ => bind (throw failure) spares
      | ok u => exact spares ()
    · exact spares ()

/-- So does opening a transaction. -/
lemma begin : SparesCursors (σ := σ) begin := by
  refine bind get fun s => ?_
  split
  · exact pure ()
  · exact bind (bind client fun k => within (.send _ _)) fun _ => change fun _ => rfl

/-- So does ending one. -/
lemma endTransaction (command : String) : SparesCursors (σ := σ) (endTransaction command) := by
  refine bind get fun s => ?_
  split
  · refine bind client fun k => bind (attempt (within (.send _ _))) fun result => ?_
    refine bind (change ?_) fun _ => bind release fun _ => mk result
    exact fun _ => rfl
  · exact pure ()

/-- So does asking whether there is a table. -/
lemma tableExists (name : String) : SparesCursors (σ := σ) (tableExists name) := by
  refine bind get fun s => bind client fun k => bind (within (.run _ _ _)) fun reply => ?_
  split
  · exact throw _
  · split
    · exact pure _
    · exact bind release fun _ => pure _

/-- So does sending a statement, as long as no reply becomes a cursor. -/
lemma submit (sql : String) (parameters : List Parameter) :
    SparesCursors (σ := σ) (submit sql parameters) := by
  refine bind get fun s => ?_
  extract_lets c opens
  refine bind client fun k => optional (within (.send _ _)) fun _ => ?_
  refine bind (attempt (within (.run _ _ _))) fun result => optional (change ?_) fun _ => ?_
  · exact fun _ => rfl
  · exact optional release fun _ => mk result

end SparesCursors

end Connection
end Tenancy
