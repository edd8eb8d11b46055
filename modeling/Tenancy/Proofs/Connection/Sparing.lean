import Tenancy.Proofs.Connection.Requests

/-!
# What outlasts a procedure

What holds of a server still does after a procedure if it outlasts everything that is sent meanwhile: what
a connection sends on its own (`Robust`), and what the procedure asks for. `Talk.Spares` says so of a
procedure, wherever the connection stands and whether requests fail or not; there is a rule for each way to
build a procedure and for each request.
-/

namespace Tenancy.Connection
variable {σ : Type} [Server σ] {α β : Type} {I : σ → Prop}

omit [Server σ] in
/-- What is sent for a statement depends on the rules and the lease. -/
lemma adapt_congr {c d : Connection} (rules : d.rules = c.rules) (lease : d.lease = c.lease) :
    d.adapt = c.adapt := by
  funext sql
  rw [adapt, adapt, rules, lease]

/-- Whether something outlasts everything that a connection sends on its own. -/
structure Robust (I : σ → Prop) : Prop where
  logIn : ∀ l server, I server → I (Server.logIn l server).2
  setSchema : ∀ k (name : String) server, I server →
    I (Server.send k s!"SET search_path TO {name}" server).2
  command : ∀ k, ∀ sql ∈ ["BEGIN", "COMMIT", "ROLLBACK"], ∀ server, I server →
    I (Server.send k sql server).2

omit [Server σ] in
/-- To give a client back is no matter to the server. -/
lemma server_released (s : Scene σ) : (released s).world.server = s.world.server := by
  obtain ⟨s', eq, server, -⟩ := outcome_release s
  rw [released, eq]
  exact server

/-- A statement that was sent has changed the server as it does. -/
lemma server_ran (s : Scene σ) (k : Client) (sql : String) (ps : List Parameter) (server : σ) :
    (ran s k sql ps server).world.server = (Server.run k (s.connection.adapt sql) ps server).2 := by
  unfold ran
  dsimp only
  split
  · rfl
  · split
    · rfl
    · exact server_released _

omit [Server σ] in
/-- To keep a result is no matter to the server. -/
lemma server_concluded (s : Scene σ) (result : Except StatementFault Reply) :
    (concluded s result).world.server = s.world.server := by
  cases result with
  | error fault => rfl
  | ok reply => rfl

namespace Robust
variable (robust : Robust I) {s : Scene σ}
include robust

/-- What outlasts what a connection sends on its own outlasts the getting of a client. -/
lemma client (h : I s.world.server) :
    I (outcome Connection.client s).2.world.server := by
  have obtained : Obtains I (fun _ _ => True) s.connection (outcome Connection.client s) :=
    obtains_client (fun l server h => ⟨robust.logIn l server h, fun _ _ => trivial⟩)
      (fun k name server h _ => ⟨robust.setSchema k name server h, trivial⟩) s h fun _ _ => trivial
  exact obtained.server

/-- What is done with a client that was got spares what outlasts what is done with it. -/
lemma afterClient {step : Step σ α}
    (first : outcome step s = match outcome Connection.client s with
      | (.error e, s') => (.error e, s')
      | (.ok _, s') => outcome step s')
    (rest : ∀ (s' : Scene σ) (k : Client), s'.connection.client? = some k →
      (∃ channel, s'.connection = { s.connection with channel }) → I s'.world.server →
      I (outcome step s').2.world.server)
    (h : I s.world.server) : I (outcome step s).2.world.server := by
  have got := robust.client h
  rw [first]
  rcases eq : outcome Connection.client s with ⟨failure | k, s'⟩
  · rw [eq] at got
    exact got
  · rw [eq] at got
    obtain ⟨held, channel⟩ := exists_of_client eq
    exact rest s' k held channel got

/-- So it does the opening of a transaction. -/
lemma begin (h : I s.world.server) : I (outcome Connection.begin s).2.world.server := by
  cases inside : s.connection.inTransaction with
  | true =>
    rw [outcome_begin_inside inside]
    exact h
  | false =>
    have got := robust.client h
    rw [outcome_begin inside]
    rcases eq : outcome Connection.client s with ⟨failure | k, s'⟩
    · rw [eq] at got
      exact got
    · rw [eq] at got
      have begun := robust.command k "BEGIN" (by simp) _ got
      dsimp only
      rcases sent : Server.send k "BEGIN" s'.world.server with ⟨fault | u, server⟩
      · rw [sent] at begun
        exact begun
      · rw [sent] at begun
        exact begun

/-- And its end. -/
lemma endTransaction {command : String} (mem : command ∈ ["BEGIN", "COMMIT", "ROLLBACK"])
    (h : I s.world.server) : I (outcome (Connection.endTransaction command) s).2.world.server := by
  cases inside : s.connection.inTransaction with
  | false =>
    rw [outcome_end_outside inside]
    exact h
  | true =>
    refine robust.afterClient (outcome_endTransaction_client inside command)
      (fun s' k held channel h => ?_) h
    obtain ⟨channel, connection⟩ := channel
    rw [outcome_end held (by rw [connection]; exact inside)]
    dsimp only
    rw [server_released]
    exact robust.command k command mem _ h

/-- What outlasts a statement as it is sent outlasts its execution. -/
lemma execute {sql : String} {ps : List Parameter}
    (run : ∀ k server, I server → I (Server.run k (s.connection.adapt sql) ps server).2)
    (h : I s.world.server) : I (outcome (Connection.execute sql ps) s).2.world.server := by
  refine robust.afterClient (outcome_execute_client s sql ps) (fun s' k held channel h => ?_) h
  obtain ⟨channel, connection⟩ := channel
  have adapts : s'.connection.adapt = s.connection.adapt :=
    adapt_congr (by rw [connection]) (by rw [connection])
  rcases execute_cases held sql ps with ⟨-, fault, server, begun, eq⟩ | ⟨server, begun, eq⟩
  · rw [eq]
    have after := robust.command k "BEGIN" (by simp) _ h
    rw [begun] at after
    exact after
  -- The transaction that was opened for the statement, if any, is begun before it is run.
  · have before : I server := by
      split at begun
      · have after := robust.command k "BEGIN" (by simp) _ h
        rw [begun] at after
        exact after
      · rw [begun]
        exact h
    rw [eq, server_concluded, server_ran, adapts]
    exact run k server before

/-- What outlasts the question outlasts the look for a table. -/
lemma tableExists {name : String}
    (run : ∀ k server, I server →
      I (Server.run k existsQuery [.text (s.connection.table name)] server).2)
    (h : I s.world.server) : I (outcome (Connection.tableExists name) s).2.world.server := by
  refine robust.afterClient (outcome_tableExists_client s name) (fun s' k held channel h => ?_) h
  obtain ⟨channel, connection⟩ := channel
  have tables : s'.connection.table name = s.connection.table name := by
    rw [connection]
    rfl
  have asked := run k _ h
  rw [← tables] at asked
  rcases tableExists_cases held name with ⟨fault, eq⟩ | ⟨answer, eq⟩
  · rw [eq]
    exact asked
  · rw [eq]
    dsimp only
    split
    · exact asked
    · rw [server_released]
      exact asked

end Robust

/-- What a procedure leaves as it is, for connections with the rules and the lease of `c`. -/
def Talk.Spares (I : σ → Prop) (c : Connection) (p : Talk α) : Prop :=
  ∀ s : Scene σ, s.connection.rules = c.rules → s.connection.lease = c.lease → I s.world.server →
    I (carry p s).2.world.server

namespace Talk.Spares
variable {c : Connection} {p : Talk α} {f : α → Talk β}

/-- A result that is known changes nothing. -/
lemma ofExcept (result : Except Failure α) : Spares I c (.ofExcept result : Talk α) :=
  fun _ _ _ h => h

/-- Nor does a value. -/
lemma pure (a : α) : Spares I c (Pure.pure a : Talk α) := fun _ _ _ h => h

/-- What outlasts two procedures outlasts one after the other. -/
lemma bind (first : Spares I c p) (rest : ∀ a, Spares I c (f a)) : Spares I c (p >>= f) := by
  intro s rules lease h
  have kin := Kin.carry p s
  have after := first s rules lease h
  rw [carry_bind]
  rcases eq : carry p s with ⟨failure | a, s'⟩
  · rw [eq] at after
    exact after
  · rw [eq] at kin after
    exact rest a s' (kin.rules.trans rules) (kin.lease.trans lease) after

/-- What outlasts a procedure outlasts an attempt at it. -/
lemma attempt (h : Spares I c p) : Spares I c p.attempt := by
  intro s rules lease holds
  rw [carry_attempt]
  exact h s rules lease holds

/-- To fetch a row changes nothing. -/
lemma fetchOne (cursor : Cursor) : Spares I c (Talk.fetchOne cursor) := by
  intro s _ _ h
  rw [carry_fetchOne, outcome_fetchOne]
  exact h

/-- Nor does the question whether there is a transaction. -/
lemma inTransaction : Spares I c Talk.inTransaction := fun _ _ _ h => h

variable (robust : Robust I)
include robust

/-- What is robust outlasts the opening of a transaction. -/
lemma begin : Spares I c Talk.begin := fun _ _ _ h => robust.begin h

/-- So it does the commit. -/
lemma commit : Spares I c Talk.commit := fun _ _ _ h => robust.endTransaction (by simp) h

/-- And the way back. -/
lemma rollback : Spares I c Talk.rollback := fun _ _ _ h => robust.endTransaction (by simp) h

/-- What outlasts a statement as it is sent outlasts it as a request. -/
lemma execute {sql : String} {ps : List Parameter}
    (run : ∀ k server, I server → I (Server.run k (c.adapt sql) ps server).2) :
    Spares I c (Talk.execute sql ps) := by
  intro s rules lease h
  rw [← adapt_congr rules lease] at run
  exact robust.execute run h

/-- So it does where no result is used. -/
lemma perform {sql : String}
    (run : ∀ k server, I server → I (Server.run k (c.adapt sql) [] server).2) :
    Spares I c (Talk.perform sql) := bind (execute robust run) fun _ => pure ()

/-- What outlasts the question outlasts it as a request. -/
lemma tableExists {name : String}
    (run : ∀ k server, I server → I (Server.run k existsQuery [.text (c.table name)] server).2) :
    Spares I c (Talk.tableExists name) := by
  intro s _ lease h
  have table : s.connection.table name = c.table name := by
    rw [Connection.table, lease]
    rfl
  rw [← table] at run
  exact robust.tableExists run h

end Talk.Spares
end Tenancy.Connection
