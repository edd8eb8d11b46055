import Tenancy.Proofs.Connection.Ends

/-!
# What becomes of a request

Each request starts by getting a client and goes on with that client. The equations here say how it goes
on, for every server and wherever the connection stands: inside a transaction or outside of one, with each
statement a transaction of its own or not. `execute_cases` and `tableExists_cases` list the ways.
-/

namespace Tenancy.Connection
variable {σ : Type} [Server σ] {s : Scene σ} {k : Client}

/-- Whether a statement has to open a transaction first. -/
def opens (c : Connection) : Bool := !c.autocommit && !c.inTransaction

/-- The scene in which a statement was run with a client. If it opened a transaction that is open now; if
it was a transaction of its own the client goes back. -/
def ran (s : Scene σ) (k : Client) (sql : String) (ps : List Parameter) (server : σ) : Scene σ :=
  let server := (Server.run k (s.connection.adapt sql) ps server).2
  if opens s.connection then
    Scene.onServer { s with connection := { s.connection with inTransaction := true } } server
  else if s.connection.inTransaction then Scene.onServer s server
  else released (Scene.onServer s server)

/-- The scene when rows are to be fetched by a new cursor, if there are any. -/
def concluded (s : Scene σ) : Except StatementFault Reply → Scene σ
  | .error _ => s
  | .ok reply =>
    { connection := { s.connection with
        last := some ⟨s.world.results.length, reply.columns, reply.rowCount⟩ }
      world := { s.world with
        results := s.world.results ++ [if reply.columns.isEmpty then [] else reply.rows] } }

/-- What comes of a statement that is run with a client, on a server that is ready for it. -/
def executed (s : Scene σ) (k : Client) (sql : String) (ps : List Parameter) (server : σ) :
    Except Failure Cursor × Scene σ :=
  let replied := (Server.run k (s.connection.adapt sql) ps server).1
  let after := ran s k sql ps server
  (match replied with
    | .error fault => .error (.statement ⟨s.connection.adapt sql, fault⟩)
    | .ok reply => .ok ⟨after.world.results.length, reply.columns, reply.rowCount⟩,
    concluded after replied)

/-- A statement is run with the client that is held, when a transaction was opened for it if need be. -/
theorem outcome_execute_held (held : s.connection.client? = some k) (sql : String) (ps : List Parameter) :
    outcome (execute sql ps) s =
      if opens s.connection then
        match Server.send k "BEGIN" s.world.server with
        | (.error fault, server) => (.error (.statement ⟨"BEGIN", fault⟩), Scene.onServer s server)
        | (.ok (), server) => executed s k sql ps server
      else executed s k sql ps s.world.server := by
  cases opened : opens s.connection with
  | true =>
    obtain ⟨alone, outside⟩ : s.connection.autocommit = false ∧ s.connection.inTransaction = false := by
      simpa [opens] using opened
    rcases begun : Server.send k "BEGIN" s.world.server with ⟨fault | u, server⟩
    · simp [execute, outcome_client held, Client.outcome_send, alone, outside, begun,
        Scene.onServer]
    · rcases run : Server.run k (s.connection.adapt sql) ps server with ⟨fault | reply, server'⟩
      · simp [execute, outcome_client held, Client.outcome_send, Client.outcome_run, alone, outside, begun,
          run, Scene.onServer, executed, ran, opened, concluded]
      · simp [execute, outcome_client held, Client.outcome_send, Client.outcome_run, alone, outside, begun,
          run, Scene.onServer, executed, ran, opened, concluded, Cursor.ofReply, Except.map]
  | false =>
    -- Where no transaction is opened for the statement, its client goes back only if it was one by itself.
    rcases run : Server.run k (s.connection.adapt sql) ps s.world.server with ⟨fault | reply, server'⟩
    · cases inside : s.connection.inTransaction with
      | true =>
        simp [execute, outcome_client held, Client.outcome_run, inside, run,
          Scene.onServer, executed, ran, opened, concluded]
      | false =>
        have alone : s.connection.autocommit = true := by simpa [opens, inside] using opened
        simp [execute, outcome_client held, Client.outcome_run, inside, alone, run,
          Scene.onServer, executed, ran, opened, concluded, outcome_release_eq]
    · cases inside : s.connection.inTransaction with
      | true =>
        simp [execute, outcome_client held, Client.outcome_run, inside, run,
          Scene.onServer, executed, ran, opened, concluded, Cursor.ofReply, Except.map]
      | false =>
        have alone : s.connection.autocommit = true := by simpa [opens, inside] using opened
        simp [execute, outcome_client held, Client.outcome_run, inside, alone, run,
          Scene.onServer, executed, ran, opened, concluded, outcome_release_eq, Cursor.ofReply, Except.map]

/-- All that can come of a statement once there is a client to send it with: a transaction cannot be
opened for it, or it is run. -/
theorem execute_cases (held : s.connection.client? = some k) (sql : String) (ps : List Parameter) :
    (opens s.connection ∧ ∃ fault server,
      Server.send k "BEGIN" s.world.server = (.error fault, server) ∧
      outcome (execute sql ps) s =
        (.error (.statement ⟨"BEGIN", fault⟩), Scene.onServer s server)) ∨
    ∃ server,
      (if opens s.connection then Server.send k "BEGIN" s.world.server = (.ok (), server)
        else server = s.world.server) ∧
      (outcome (execute sql ps) s).2 =
        concluded (ran s k sql ps server) (Server.run k (s.connection.adapt sql) ps server).1 := by
  rw [outcome_execute_held held]
  cases opened : opens s.connection with
  | true =>
    rcases begun : Server.send k "BEGIN" s.world.server with ⟨fault | u, server⟩
    · exact .inl ⟨rfl, fault, server, rfl, rfl⟩
    · exact .inr ⟨server, rfl, rfl⟩
  | false => exact .inr ⟨_, rfl, rfl⟩

/-- What comes of the question whether there is a table, by what the server says to it. The client goes
back after an answer, unless a transaction is open. -/
def answered (s : Scene σ) : Except StatementFault Reply × σ → Except Failure Bool × Scene σ
  | (.error fault, server) => (.error (.statement ⟨existsQuery, fault⟩), Scene.onServer s server)
  | (.ok reply, server) =>
    match truth? reply with
    | .error m => (.error (.statement ⟨existsQuery, .mismatch m⟩), Scene.onServer s server)
    | .ok answer =>
      (.ok answer,
        if s.connection.inTransaction then Scene.onServer s server else released (Scene.onServer s server))

/-- The question whether there is a table is one statement to the client that is held, about the table that
the identifier denotes. -/
theorem outcome_tableExists_held (held : s.connection.client? = some k) (name : String) :
    outcome (tableExists name) s =
      answered s (Server.run k existsQuery [.text (s.connection.table name)] s.world.server) := by
  rcases asks : Server.run k existsQuery [.text (s.connection.table name)] s.world.server with
    ⟨fault | reply, server⟩
  · simp [tableExists, outcome_client held, Client.outcome_run, asks, Scene.onServer, answered]
  · cases answer : truth? reply with
    | error m =>
      simp [tableExists, outcome_client held, Client.outcome_run, asks, Scene.onServer, answered, answer]
    | ok b =>
      cases inside : s.connection.inTransaction with
      | true =>
        simp [tableExists, outcome_client held, Client.outcome_run, asks, Scene.onServer, answered, answer,
          inside]
      | false =>
        simp [tableExists, outcome_client held, Client.outcome_run, asks, Scene.onServer, answered, answer,
          inside, outcome_release_eq, Except.map]

/-- All that can come of the question whether there is a table once there is a client to ask with: it
fails, or the client goes back unless a transaction is open. -/
theorem tableExists_cases (held : s.connection.client? = some k) (name : String) :
    let asked := Scene.onServer s (Server.run k existsQuery [.text (s.connection.table name)] s.world.server).2
    (∃ fault, outcome (tableExists name) s = (.error (.statement ⟨existsQuery, fault⟩), asked)) ∨
    ∃ answer, outcome (tableExists name) s =
      (.ok answer, if s.connection.inTransaction then asked else released asked) := by
  rw [outcome_tableExists_held held]
  rcases Server.run k existsQuery [.text (s.connection.table name)] s.world.server with ⟨fault | reply, server⟩
  · exact .inl ⟨fault, rfl⟩
  · rw [answered]
    cases truth? reply with
    | error m => exact .inl ⟨.mismatch m, rfl⟩
    | ok b => exact .inr ⟨b, rfl⟩

/-! ## What no request changes -/

/-- Whether two connections are for the same tenant and with the same rules, and have the same client if
one has a client of its own. -/
structure Kin (c d : Connection) : Prop where
  rules : d.rules = c.rules
  lease : d.lease = c.lease
  direct : ∀ k, c.channel = .direct k → d.channel = .direct k

namespace Kin

/-- A connection is its own kin. -/
lemma refl (c : Connection) : c.Kin c := ⟨rfl, rfl, fun _ => id⟩

/-- What is kin of kin is kin. -/
lemma trans {c d f : Connection} (h : c.Kin d) (g : d.Kin f) : c.Kin f :=
  ⟨g.rules.trans h.rules, g.lease.trans h.lease, fun k own => g.direct k (h.direct k own)⟩

/-- Getting a client changes the channel at most, and that of a pool only. -/
lemma client (s : Scene σ) : s.connection.Kin (outcome Connection.client s).2.connection := by
  have obtained : Obtains (fun _ => True) (fun _ _ => True) s.connection
      (outcome Connection.client s) :=
    obtains_client (fun _ _ _ => ⟨trivial, fun _ _ => trivial⟩) (fun _ _ _ _ _ => ⟨trivial, trivial⟩)
      s trivial fun _ _ => trivial
  obtain ⟨channel, eq⟩ := obtained.connection
  refine ⟨by rw [eq], by rw [eq], fun k own => ?_⟩
  -- A client of its own is held already, so nothing changes.
  rw [outcome_client (k := k) (by rw [client?, own])]
  exact own

omit [Server σ] in
/-- A connection stays kin when its client is given back. -/
lemma released {c : Connection} {s : Scene σ} (h : c.Kin s.connection) :
    c.Kin (Connection.released s).connection := by
  obtain ⟨channel, connection⟩ := released_connection s
  refine h.trans ⟨by rw [connection], by rw [connection], fun k own => ?_⟩
  rw [released_free fun number d eq => by rw [own] at eq; cases eq]
  exact own

/-- What is done after a client was got keeps to the connection if what is done with it does. -/
lemma afterClient {α : Type} {s : Scene σ} {step : Step σ α}
    (first : outcome step s = match outcome Connection.client s with
      | (.error e, s') => (.error e, s')
      | (.ok _, s') => outcome step s')
    (rest : ∀ (s' : Scene σ) (k : Client), s'.connection.client? = some k →
      s'.connection.inTransaction = s.connection.inTransaction →
      s'.connection.Kin (outcome step s').2.connection) :
    s.connection.Kin (outcome step s).2.connection := by
  have got := client s
  rw [first]
  rcases eq : outcome Connection.client s with ⟨e | k, s'⟩
  · rw [eq] at got
    exact got
  · rw [eq] at got
    obtain ⟨held, channel, connection⟩ := exists_of_client eq
    exact got.trans (rest s' k held (by rw [connection]))

/-- So it does when a transaction is opened. -/
lemma begin (s : Scene σ) : s.connection.Kin (outcome Connection.begin s).2.connection := by
  cases inside : s.connection.inTransaction with
  | true =>
    rw [outcome_begin_inside inside]
    exact refl _
  | false =>
    have got := client s
    rw [outcome_begin inside]
    rcases eq : outcome Connection.client s with ⟨e | k, s'⟩
    · rw [eq] at got
      exact got
    · rw [eq] at got
      dsimp only
      rcases Server.send k "BEGIN" s'.world.server with ⟨fault | u, server⟩
      · exact got
      · exact got.trans ⟨rfl, rfl, fun _ => id⟩

/-- So it does when one is ended. -/
lemma endTransaction (s : Scene σ) (command : String) :
    s.connection.Kin (outcome (Connection.endTransaction command) s).2.connection := by
  cases inside : s.connection.inTransaction with
  | false =>
    rw [outcome_end_outside inside]
    exact refl _
  | true =>
    refine afterClient (outcome_endTransaction_client inside command) fun s' k held still => ?_
    rw [outcome_end held (still.trans inside)]
    exact released ⟨rfl, rfl, fun _ => id⟩

/-- So it does with a statement. -/
lemma execute (s : Scene σ) (sql : String) (ps : List Parameter) :
    s.connection.Kin (outcome (Connection.execute sql ps) s).2.connection := by
  refine afterClient (outcome_execute_client s sql ps) fun s' k held _ => ?_
  rcases execute_cases held sql ps with ⟨-, fault, server, -, eq⟩ | ⟨server, -, eq⟩
  · rw [eq]
    exact refl _
  · have ran : s'.connection.Kin (Connection.ran s' k sql ps server).connection := by
      unfold Connection.ran
      dsimp only
      split
      · exact ⟨rfl, rfl, fun _ => id⟩
      · split
        · exact refl _
        · exact released ⟨rfl, rfl, fun _ => id⟩
    rw [eq]
    cases (Server.run k (s'.connection.adapt sql) ps server).1 with
    | error fault => exact ran
    | ok reply => exact ran.trans ⟨rfl, rfl, fun _ => id⟩

/-- So it does with a question for a table. -/
lemma tableExists (s : Scene σ) (name : String) :
    s.connection.Kin (outcome (Connection.tableExists name) s).2.connection := by
  refine afterClient (outcome_tableExists_client s name) fun s' k held _ => ?_
  rcases tableExists_cases held name with ⟨fault, eq⟩ | ⟨answer, eq⟩
  · rw [eq]
    exact ⟨rfl, rfl, fun _ => id⟩
  · rw [eq]
    dsimp only
    split
    · exact ⟨rfl, rfl, fun _ => id⟩
    · exact released ⟨rfl, rfl, fun _ => id⟩

/-- Whatever is asked of a connection, it stays one for the same tenant with the same rules, and its client
stays the same if that is its own. -/
theorem answer (s : Scene σ) (r : Request) :
    s.connection.Kin (outcome (Connection.answer r) s).2.connection := by
  cases r with
  | inTransaction => exact refl _
  | begin => exact begin s
  | commit => exact endTransaction s "COMMIT"
  | rollback => exact endTransaction s "ROLLBACK"
  | execute sql ps => exact execute s sql ps
  | fetchOne cursor =>
    change s.connection.Kin (outcome (within cursor.fetchOne) s).2.connection
    rw [outcome_fetchOne]
    exact refl _
  | tableExists name => exact tableExists s name

/-- So does a whole procedure. -/
theorem carry {α : Type} (p : Talk α) (s : Scene σ) :
    s.connection.Kin (Connection.carry p s).2.connection := by
  induction p generalizing s with
  | done result => exact refl _
  | ask r next ih => exact (answer s r).trans (ih _ _)

end Kin

end Tenancy.Connection
