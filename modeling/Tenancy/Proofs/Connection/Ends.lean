import Tenancy.Proofs.Connection.Talk

/-!
# Where transactions begin and end

What it takes to get a client, to open a transaction with it and to end that transaction, for every
server. A pool may have to log a client in and tell it where to look for tables; `client_spec` says that
whatever survives those two survives the whole, and `outcome_endTransaction` that the end of a
transaction is one statement to the client that was held.
-/

namespace Tenancy
variable {σ : Type} [Server σ] {α β : Type}

/-- A client is logged in for a pool, or the attempt fails. -/
lemma Pool.outcome_openClient (p : Pool) (w : World σ) :
    Action.outcome p.openClient w =
      ((Server.logIn (p.address.login p.tls) w.server).1.elim
        (.error (.pool .unavailable)) .ok,
        { w with server := (Server.logIn (p.address.login p.tls) w.server).2 }) := by
  rw [openClient, Action.outcome_bind, Address.logIn?, Action.outcome_served]
  rcases Server.logIn (p.address.login p.tls) w.server with ⟨_ | k, server⟩
  · rfl
  · rfl

omit [Server σ] in
/-- A pool is looked up by its number. -/
lemma Pool.outcome_get? (number : Nat) (w : World σ) :
    Action.outcome (Pool.get? number) w = (.ok w.pools[number]?, w) := rfl

omit [Server σ] in
/-- It is changed in its place. -/
lemma Pool.outcome_update (number : Nat) (f : Pool → Pool) (w : World σ) :
    Action.outcome (Pool.update number f) w =
      (.ok ⟨⟩, { w with pools := w.pools.modify number f }) := rfl

/-- What survives that somebody logs in survives that a client is taken from a pool, and the client is as
`G` says if those at rest are and those that are logged in. -/
theorem Pool.take_spec {I : σ → Prop} {G : Client → σ → Prop}
    (logIn : ∀ l server, I server → I (Server.logIn l server).2 ∧
      ∀ k, (Server.logIn l server).1 = some k → G k (Server.logIn l server).2)
    {number : Nat} {w : World σ} (hI : I w.server)
    (hG : ∀ pool, w.pools[number]? = some pool → ∀ k ∈ pool.idle, G k w.server) :
    Leaves (fun k w' => I w'.server ∧ G k w'.server) (fun w' => I w'.server)
      (Action.outcome (Pool.take number) w) := by
  rw [Pool.take, Action.outcome_bind, Pool.outcome_get?]
  dsimp only
  cases found : w.pools[number]? with
  | none => exact hI
  | some p =>
    by_cases full : p.max ≤ p.lent
    · simp only [full, ↓reduceIte]
      exact hI
    · simp only [full, ↓reduceIte, Action.outcome_bind, Action.outcome_get]
      cases resting : Pool.dropClosed p.idle w.server with
      | cons k idle =>
        have mem : k ∈ p.idle := by
          have sublist : (Pool.dropClosed p.idle w.server).Sublist p.idle := List.dropWhile_sublist _
          refine sublist.subset ?_
          rw [resting]
          exact List.mem_cons_self
        simp only [Action.outcome_bind, Pool.outcome_update]
        exact ⟨hI, hG p found k mem⟩
      | nil =>
        obtain ⟨after, got⟩ := logIn (p.address.login p.tls) w.server hI
        simp only [Action.outcome_bind, Pool.outcome_update, Pool.outcome_openClient]
        rcases eq : Server.logIn (p.address.login p.tls) w.server with ⟨_ | k, server⟩
        · rw [eq] at after
          exact after
        · rw [eq] at after got
          exact ⟨after, got k rfl⟩

namespace Connection

omit [Server σ] in
/-- Whether a connection can get a client without logging it in: it holds the client, or the client is at
rest in its pool. -/
def Offers (s : Scene σ) (k : Client) : Prop :=
  s.connection.client? = some k ∨
    ∃ number pool, s.connection.channel = .pooled number none ∧ s.world.pools[number]? = some pool ∧
      k ∈ pool.idle

/-- The outcome of getting a client: what is known of the server still holds, the connection differs in
its channel at most, and the channel holds the client, which is as `G` says, if there is one. -/
structure Obtains (I : σ → Prop) (G : Client → σ → Prop) (c : Connection)
    (o : Except Failure Client × Scene σ) : Prop where
  server : I o.2.world.server
  connection : ∃ channel, o.2.connection = { c with channel }
  held : ∀ k, o.1 = .ok k → o.2.connection.client? = some k ∧ G k o.2.world.server
  lost : ∀ failure, o.1 = .error failure → o.2.connection.client? = none

/-- What survives that a client logs in and is told where to look for tables survives that a connection
gets a client. -/
theorem obtains_client {I : σ → Prop} {G : Client → σ → Prop}
    (logIn : ∀ l server, I server → I (Server.logIn l server).2 ∧
      ∀ k, (Server.logIn l server).1 = some k → G k (Server.logIn l server).2)
    (setSchema : ∀ k (name : String) server, I server → G k server →
      I (Server.send k s!"SET search_path TO {name}" server).2 ∧
        G k (Server.send k s!"SET search_path TO {name}" server).2)
    (s : Scene σ) (hI : I s.world.server) (hG : ∀ k, Offers s k → G k s.world.server) :
    Obtains I G s.connection (outcome client s) := by
  obtain ⟨c, w⟩ := s
  have held {k : Client} (hk : c.client? = some k) : Obtains I G c (outcome client ⟨c, w⟩) := by
    rw [outcome_client (s := ⟨c, w⟩) hk]
    refine ⟨hI, ⟨c.channel, rfl⟩, fun k' eq => ?_, by simp⟩
    cases eq
    exact ⟨hk, hG k (.inl hk)⟩
  cases channel : c.channel with
  | direct k => exact held (by rw [client?, channel])
  | pooled number some =>
    cases some with
    | some k => exact held (by rw [client?, channel])
    | none =>
      have none : client? c = none := by rw [client?, channel]
      have resting (pool : Pool) (found : w.pools[number]? = some pool) (k : Client)
          (mem : k ∈ pool.idle) : G k w.server := hG k (.inr ⟨number, pool, channel, found, mem⟩)
      have taken := Pool.take_spec logIn hI resting
      rw [client, outcome_bind, outcome_get]
      simp only [channel, outcome_bind, outcome_within]
      rcases eq : Action.outcome (Pool.take number) w with ⟨e | k, w'⟩
      · rw [eq] at taken
        exact ⟨taken, ⟨c.channel, rfl⟩, fun k eq => (by cases eq), fun _ _ => none⟩
      · rw [eq] at taken
        dsimp only
        cases schema : c.address.schema? with
        | none =>
          refine ⟨taken.1, ⟨.pooled number (some k), rfl⟩, fun k' eq => ?_, fun _ eq => by cases eq⟩
          cases eq
          exact ⟨rfl, taken.2⟩
        | some name =>
          have told := setSchema k (String.ofList (Sql.quoteName name.toList)) w'.server taken.1
            taken.2
          simp only [outcome_bind, outcome_attempt, outcome_within, Client.setSchema,
            Client.outcome_send]
          rcases eq : Server.send k _ w'.server with ⟨e | u, server⟩
          · rw [eq] at told
            exact ⟨told.1, ⟨c.channel, rfl⟩, fun k eq => (by cases eq), fun _ _ => none⟩
          · rw [eq] at told
            refine ⟨told.1, ⟨.pooled number (some k), rfl⟩, fun k' eq => ?_, fun _ eq => by cases eq⟩
            cases eq
            exact ⟨rfl, told.2⟩

/-- A connection that got a client holds it, and differs in its channel at most. -/
lemma exists_of_client {s s' : Scene σ} {k : Client} (got : outcome client s = (.ok k, s')) :
    s'.connection.client? = some k ∧ ∃ channel, s'.connection = { s.connection with channel } := by
  have obtained : Obtains (fun _ => True) (fun _ _ => True) s.connection (outcome client s) :=
    obtains_client (fun _ _ _ => ⟨trivial, fun _ _ => trivial⟩) (fun _ _ _ _ _ => ⟨trivial, trivial⟩)
      s trivial fun _ _ => trivial
  rw [got] at obtained
  exact ⟨(obtained.held k rfl).1, obtained.connection⟩

/-- A statement is sent by the client that is got for it, as if it had been held. -/
lemma outcome_execute_client (s : Scene σ) (sql : String) (ps : List Parameter) :
    outcome (execute sql ps) s =
      match outcome client s with
      | (.error e, s') => (.error e, s')
      | (.ok _, s') => outcome (execute sql ps) s' := by
  rcases got : outcome client s with ⟨e | k, s'⟩
  · simp [execute, got]
  · obtain ⟨held, channel, connection⟩ := exists_of_client got
    simp [execute, got, outcome_client held, connection, adapt]

/-- To ask for a table gets a client first. -/
lemma outcome_tableExists_client (s : Scene σ) (name : String) :
    outcome (tableExists name) s =
      match outcome client s with
      | (.error e, s') => (.error e, s')
      | (.ok _, s') => outcome (tableExists name) s' := by
  rcases got : outcome client s with ⟨e | k, s'⟩
  · simp [tableExists, got]
  · obtain ⟨held, channel, connection⟩ := exists_of_client got
    simp [tableExists, got, outcome_client held, connection, table]

/-- So does the end of a transaction. -/
lemma outcome_endTransaction_client {s : Scene σ} (inside : s.connection.inTransaction = true)
    (command : String) :
    outcome (endTransaction command) s =
      match outcome client s with
      | (.error e, s') => (.error e, s')
      | (.ok _, s') => outcome (endTransaction command) s' := by
  rcases got : outcome client s with ⟨e | k, s'⟩
  · simp [endTransaction, got, inside]
  · obtain ⟨held, channel, connection⟩ := exists_of_client got
    simp [endTransaction, got, outcome_client held, connection, inside]

omit [Server σ] in
/-- To give a client back changes the pools and the channel alone. -/
lemma outcome_release (s : Scene σ) :
    ∃ s', outcome release s = (.ok (), s') ∧ s'.world.server = s.world.server ∧
      ∃ channel, s'.connection = { s.connection with channel } := by
  rw [release, outcome_bind, outcome_get]
  dsimp only
  split
  · exact ⟨_, rfl, rfl, _, rfl⟩
  · exact ⟨s, rfl, rfl, s.connection.channel, rfl⟩

/-- The scene after a client was given back, if one is held. -/
def released (s : Scene σ) : Scene σ := (outcome release s).2

omit [Server σ] in
/-- What becomes of a scene when the client is given back. -/
lemma outcome_release_eq (s : Scene σ) : outcome release s = (.ok (), released s) := by
  obtain ⟨s', eq, -⟩ := outcome_release s
  rw [released, eq]

omit [Server σ] in
/-- A client that was held is given back. -/
lemma released_held {s : Scene σ} {k : Client} {number : Nat} (held : s.connection.channel = .pooled number (some k)) :
    released s =
      { connection := { s.connection with channel := .pooled number none }
        world := (Action.outcome (Pool.giveBack number k) s.world).2 } := by
  rw [released, release, outcome_bind, outcome_get]
  simp only [held]
  rfl

omit [Server σ] in
/-- Without one of a pool nothing changes. -/
lemma released_free {s : Scene σ} (free : ∀ number k, s.connection.channel ≠ .pooled number (some k)) :
    released s = s := by
  rw [released, release, outcome_bind, outcome_get]
  dsimp only
  split
  · next number k held => exact absurd held (free number k)
  · rfl

omit [Server σ] in
/-- What is left of a connection when its client was given back. -/
lemma released_connection (s : Scene σ) :
    ∃ channel, (released s).connection = { s.connection with channel } := by
  obtain ⟨s', eq, -, connection⟩ := outcome_release s
  rw [released, eq]
  exact connection

omit [Server σ] in
/-- A client that is still held was held before. -/
lemma released_client {s : Scene σ} {k : Client}
    (held : (released s).connection.client? = some k) : s.connection.client? = some k := by
  have free (h : ∀ number d, s.connection.channel ≠ .pooled number (some d)) :
      s.connection.client? = some k := by rwa [released_free h] at held
  cases channel : s.connection.channel with
  | direct d => exact free (by simp [channel])
  | pooled number some =>
    cases some with
    | none => exact free (by simp [channel])
    | some d =>
      rw [released_held channel] at held
      cases held

/-- A scene after the server was asked for something. -/
def Scene.onServer (s : Scene σ) (server : σ) : Scene σ := { s with world := { s.world with server } }

/-- Outside of transactions there is nothing to end. -/
lemma outcome_end_outside {s : Scene σ} (outside : s.connection.inTransaction = false)
    (command : String) : outcome (endTransaction command) s = (.ok (), s) := by
  simp [endTransaction, outside]

/-- A transaction is ended by one statement to the client that is held, which then goes back. -/
lemma outcome_end {s : Scene σ} {k : Client} (held : s.connection.client? = some k)
    (inside : s.connection.inTransaction = true) (command : String) :
    outcome (endTransaction command) s =
      ((Server.send k command s.world.server).1.mapError fun fault => .statement ⟨command, fault⟩,
        released (Scene.onServer { s with connection := { s.connection with inTransaction := false } }
          (Server.send k command s.world.server).2)) := by
  simp [endTransaction, inside, outcome_client held, Client.outcome_send, outcome_release_eq,
    Scene.onServer]

/-- The end of a transaction is one statement to the client that is held, and no other one is held
afterwards. -/
theorem outcome_endTransaction {s : Scene σ} {k : Client} (hk : s.connection.client? = some k)
    (ht : s.connection.inTransaction = true) (command : String) :
    ∃ s', outcome (endTransaction command) s =
        ((Server.send k command s.world.server).1.mapError fun fault =>
          .statement ⟨command, fault⟩, s') ∧
      s'.connection.inTransaction = false ∧
      s'.world.server = (Server.send k command s.world.server).2 ∧
      ∀ d, s'.connection.client? = some d → d = k := by
  let s₁ := Scene.onServer { s with connection := { s.connection with inTransaction := false } }
    (Server.send k command s.world.server).2
  obtain ⟨s', eq, server, channel, connection⟩ := outcome_release s₁
  have same : released s₁ = s' := by rw [released, eq]
  refine ⟨s', ?_, by rw [connection]; rfl, server, fun d held => ?_⟩
  · rw [outcome_end hk ht, same]
  · rw [← same] at held
    exact Option.some.inj ((released_client held).symm.trans hk)

/-- Inside a transaction no other one is begun. -/
lemma outcome_begin_inside {s : Scene σ} (inside : s.connection.inTransaction = true) :
    outcome begin s = (.ok (), s) := by
  simp [begin, inside]

/-- A transaction is begun by one statement to the client that is got for it. -/
theorem outcome_begin {s : Scene σ} (ht : s.connection.inTransaction = false) :
    outcome begin s =
      match outcome client s with
      | (.error e, s') => (.error e, s')
      | (.ok k, s') =>
        match Server.send k "BEGIN" s'.world.server with
        | (.error fault, server) =>
          (.error (.statement ⟨"BEGIN", fault⟩), { s' with world := { s'.world with server } })
        | (.ok (), server) =>
          (.ok (), { connection := { s'.connection with inTransaction := true }
                     world := { s'.world with server } }) := by
  rw [begin, outcome_bind, outcome_get]
  simp only [ht, Bool.false_eq_true, ↓reduceIte, sendRaw, outcome_bind]
  rcases outcome client s with ⟨e | k, s'⟩
  · rfl
  · simp only [outcome_within, Client.outcome_send]
    rcases Server.send k "BEGIN" s'.world.server with ⟨e | u, server⟩
    · rfl
    · rfl

end Connection
end Tenancy
