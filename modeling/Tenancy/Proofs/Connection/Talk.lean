import Tenancy.Connection.Request
import Tenancy.Proofs.Connection.Outcome

/-!
# Talking inside a transaction

What a procedure does to a server while a transaction is open. The connection then holds one client and
does not change, but for its last cursor, and each statement goes to that client as the connection
adapts it. `Talk.Triple` says of a procedure what it makes of a server of which something is known;
there is a rule for each way to build a procedure and for each request that leaves the transaction
alone.
-/

namespace Tenancy.Connection
variable {σ : Type} [Server σ] {α β : Type}

/-- The outcome of a procedure and the scene after it. -/
def carry (p : Talk α) (s : Scene σ) : Except Failure α × Scene σ := outcome (perform p) s

/-- A procedure that is done gives its result. -/
@[simp]
lemma carry_done (result : Except Failure α) (s : Scene σ) :
    carry (.done result) s = (result, s) := rfl

/-! A request alone has the outcome of its answer. -/

/-- A connection tells whether it is in a transaction. -/
lemma carry_inTransaction (s : Scene σ) :
    carry Talk.inTransaction s = (.ok s.connection.inTransaction, s) := rfl

/-- To ask for a transaction is to begin one on the connection. -/
lemma carry_begin (s : Scene σ) : carry Talk.begin s = outcome begin s := rfl

/-- To ask for a statement is to execute it on the connection. -/
lemma carry_execute (sql : String) (ps : List Parameter) (s : Scene σ) :
    carry (Talk.execute sql ps) s = outcome (execute sql ps) s := rfl

/-- To ask for a row is to fetch it. -/
lemma carry_fetchOne (cursor : Cursor) (s : Scene σ) :
    carry (Talk.fetchOne cursor) s = outcome (within cursor.fetchOne) s := rfl

/-- To ask for a table is to look for it on the connection. -/
lemma carry_tableExists (name : String) (s : Scene σ) :
    carry (Talk.tableExists name) s = outcome (tableExists name) s := rfl

/-- What follows a procedure starts where it ended, unless it failed. -/
lemma carry_bind (p : Talk α) (f : α → Talk β) (s : Scene σ) :
    carry (p >>= f) s =
      match carry p s with
      | (.ok a, s') => carry (f a) s'
      | (.error e, s') => (.error e, s') := by
  change carry (p.bind f) s = _
  induction p generalizing s with
  | done result => cases result <;> rfl
  | ask r next ih => exact ih _ _

/-- A value comes from the value of what was done first. -/
lemma exists_of_carry_bind {p : Talk α} {f : α → Talk β} {s s' : Scene σ} {b : β}
    (h : carry (p >>= f) s = (.ok b, s')) :
    ∃ a s₁, carry p s = (.ok a, s₁) ∧ carry (f a) s₁ = (.ok b, s') := by
  rw [carry_bind] at h
  rcases first : carry p s with ⟨e | a, s₁⟩
  · rw [first] at h
    cases h
  · rw [first] at h
    exact ⟨a, s₁, rfl, h⟩

/-- An attempt ends in a result of any kind, with nothing else changed. -/
lemma carry_attempt (p : Talk α) (s : Scene σ) :
    carry p.attempt s = (.ok (carry p s).1, (carry p s).2) := by
  induction p generalizing s with
  | done result => rfl
  | ask r next ih => exact ih _ _

/-- The client that a connection sends through as it stands. -/
def client? (c : Connection) : Option Client :=
  match c.channel with
  | .direct k => some k
  | .pooled _ held => held

/-- Whether two connections differ in their last cursors at most. -/
def Like (c d : Connection) : Prop := ∃ last, d = { c with last }

/-- A connection is like itself. -/
lemma Like.refl (c : Connection) : c.Like c := ⟨c.last, rfl⟩

/-- What is like one that is like a third is like the third. -/
lemma Like.trans {c d f : Connection} (h : c.Like d) (g : d.Like f) : c.Like f := by
  obtain ⟨m, rfl⟩ := h
  obtain ⟨n, rfl⟩ := g
  exact ⟨n, rfl⟩

/-- A connection that holds a client takes none from a pool. -/
lemma outcome_client {s : Scene σ} {k : Client} (h : s.connection.client? = some k) :
    outcome (client (σ := σ)) s = (.ok k, s) := by
  rw [client, outcome_bind, outcome_get]
  cases hc : s.connection.channel with
  | direct d =>
    obtain rfl : d = k := by simpa [client?, hc] using h
    simp [hc]
  | pooled n held =>
    obtain rfl : held = some k := by simpa [client?, hc] using h
    simp [hc]

/-- Inside a transaction a statement goes to the client as the connection adapts it. -/
lemma outcome_execute {s : Scene σ} {k : Client} (hk : s.connection.client? = some k)
    (ht : s.connection.inTransaction = true) (sql : String) (ps : List Parameter) :
    outcome (execute sql ps) s =
      match Server.run k (s.connection.adapt sql) ps s.world.server with
      | (.error fault, server) =>
        (.error (.statement ⟨s.connection.adapt sql, fault⟩),
          { s with world := { s.world with server } })
      | (.ok r, server) =>
        let cursor : Cursor := ⟨s.world.results.length, r.columns, r.rowCount⟩
        (.ok cursor,
          { connection := { s.connection with last := some cursor }
            world := { s.world with
              server
              results := s.world.results ++ [if r.columns.isEmpty then [] else r.rows] } }) := by
  rcases h : Server.run k (s.connection.adapt sql) ps s.world.server with ⟨fault | r, server⟩
  · simp [execute, outcome_client hk, ht, Client.outcome_run, h]
  · simp [execute, outcome_client hk, ht, Client.outcome_run, h,
      Cursor.ofReply, Except.map]

/-- The question whether there is a table goes to the client as it stands. -/
lemma outcome_tableExists {s : Scene σ} {k : Client} (hk : s.connection.client? = some k)
    (ht : s.connection.inTransaction = true) (name : String) :
    outcome (tableExists name) s =
      match Server.run k existsQuery [.text (s.connection.table name)] s.world.server with
      | (.error fault, server) =>
        (.error (.statement ⟨existsQuery, fault⟩), { s with world := { s.world with server } })
      | (.ok r, server) =>
        ((truth? r).mapError fun m => .statement ⟨existsQuery, .mismatch m⟩,
          { s with world := { s.world with server } }) := by
  rcases h : Server.run k existsQuery [.text (s.connection.table name)] s.world.server with
    ⟨fault | r, server⟩
  · simp [tableExists, outcome_client hk, Client.outcome_run, h]
  · cases ok : truth? r <;>
      simp [tableExists, outcome_client hk, ht, Client.outcome_run, h, ok]

omit [Server σ] in
/-- The first row that a cursor has left is fetched. -/
lemma outcome_fetchOne (cursor : Cursor) (s : Scene σ) :
    let rows := s.world.results[cursor.number]?.getD []
    outcome (within cursor.fetchOne) s =
      (.ok (rows.take 1).head?,
        { s with world := { s.world with
            results := s.world.results.set cursor.number (rows.drop 1) } }) := by
  simp [Cursor.fetchOne, Cursor.fetch, Cursor.rest, Except.map]

namespace Like
variable {c d : Connection}

/-- Like connections hold the same client. -/
lemma client? (h : c.Like d) : d.client? = c.client? := by
  obtain ⟨last, rfl⟩ := h
  rfl

/-- They are in a transaction alike. -/
lemma inTransaction (h : c.Like d) : d.inTransaction = c.inTransaction := by
  obtain ⟨last, rfl⟩ := h
  rfl

/-- They adapt statements alike. -/
lemma adapt (h : c.Like d) : d.adapt = c.adapt := by
  obtain ⟨last, rfl⟩ := h
  rfl

/-- They give tables the same names. -/
lemma table (h : c.Like d) : d.table = c.table := by
  obtain ⟨last, rfl⟩ := h
  rfl

end Like

/-- Whatever the scene, if the server is as `P` says then the procedure leaves it as `Q` says of the
value, or as `R` says where it fails; the connection stays like `c`. -/
def Talk.Triple (c : Connection) (P : σ → Prop) (p : Talk α) (Q : α → σ → Prop) (R : σ → Prop) :
    Prop :=
  ∀ s : Scene σ, c.Like s.connection → P s.world.server →
    c.Like (carry p s).2.connection ∧
      Leaves Q R ((carry p s).1, (carry p s).2.world.server)

namespace Talk.Triple
variable {c : Connection} {k : Client} {P P' R R' : σ → Prop} {Q Q' : α → σ → Prop}
  {S : β → σ → Prop} {p : Talk α}

/-- A result that is known leaves what is so of it. -/
lemma done {result : Except Failure α} (ok : ∀ a, result = .ok a → ∀ s, P s → Q a s)
    (error : ∀ e, result = .error e → ∀ s, P s → R s) : Triple c P (.done result) Q R := by
  intro s like hP
  refine ⟨like, ?_⟩
  cases result with
  | ok a => exact ok a rfl _ hP
  | error e => exact error e rfl _ hP

/-- A value leaves what is so of it. -/
lemma pure (a : α) (h : ∀ s, P s → Q a s) : Triple c P (Pure.pure a) Q R :=
  done (fun _ eq => by cases eq; exact h) (by simp)

/-- What holds after one procedure is what the next one starts from. -/
lemma bind {f : α → Talk β} (first : Triple c P p Q R) (rest : ∀ a, Triple c (Q a) (f a) S R) :
    Triple c P (p >>= f) S R := by
  intro s like hP
  obtain ⟨like, post⟩ := first s like hP
  rw [carry_bind]
  rcases h : carry p s with ⟨e | a, s'⟩
  · rw [h] at like post
    exact ⟨like, post⟩
  · rw [h] at like post
    exact rest a s' like post

/-- An attempt never fails; its value tells what the procedure made of the server. -/
lemma attempt (h : Triple c P p Q R) :
    Triple c P p.attempt (fun result s => Leaves Q R (result, s)) R' := by
  intro s like hP
  rw [carry_attempt]
  exact h s like hP

/-- More may be asked for before, and less be told afterwards. -/
lemma weaken (h : Triple c P p Q R) (pre : ∀ s, P' s → P s) (ok : ∀ a s, Q a s → Q' a s)
    (error : ∀ s, R s → R' s) : Triple c P' p Q' R' := by
  intro s like hP
  obtain ⟨like, post⟩ := h s like (pre _ hP)
  exact ⟨like, post.mono ok error⟩

/-- A procedure that cannot fail gives a value. -/
lemma succeeds (h : Triple c P p Q fun _ => False) {s : Scene σ} (like : c.Like s.connection)
    (hP : P s.world.server) :
    ∃ a s', carry p s = (.ok a, s') ∧ c.Like s'.connection ∧ Q a s'.world.server := by
  obtain ⟨like', post⟩ := h s like hP
  rcases eq : carry p s with ⟨e | a, s'⟩
  · rw [eq] at post
    exact post.elim
  · rw [eq] at like' post
    exact ⟨a, s', rfl, like', post⟩

/-- A statement of a transaction leaves what the server's answer leaves. -/
lemma execute (hk : c.client? = some k) (ht : c.inTransaction = true) {sql : String}
    {ps : List Parameter} {Q : σ → Prop}
    (h : ∀ s, P s → Leaves (fun _ => Q) R (Server.run k (c.adapt sql) ps s)) :
    Triple c P (Talk.execute sql ps) (fun _ => Q) R := by
  intro s like hP
  rw [← like.client?] at hk
  rw [← like.inTransaction] at ht
  have post := h _ hP
  rw [← like.adapt] at post
  rw [carry_execute, outcome_execute hk ht]
  rcases h : Server.run k (s.connection.adapt sql) ps s.world.server with ⟨e | r, s'⟩
  · rw [h] at post
    exact ⟨like, post⟩
  · rw [h] at post
    exact ⟨like.trans ⟨_, rfl⟩, post⟩

/-- So does one of which no result is used. -/
lemma perform (hk : c.client? = some k) (ht : c.inTransaction = true) {sql : String}
    {Q : σ → Prop}
    (h : ∀ s, P s → Leaves (fun _ => Q) R (Server.run k (c.adapt sql) [] s)) :
    Triple c P (Talk.perform sql) (fun _ => Q) R :=
  bind (execute hk ht h) fun _ => pure _ fun _ hQ => hQ

/-- The question whether there is a table gives the truth value of the reply. -/
lemma tableExists_reply (hk : c.client? = some k) (ht : c.inTransaction = true) {name : String}
    {Q : Reply → σ → Prop} {S : Bool → σ → Prop}
    (h : ∀ s, P s → Leaves Q R (Server.run k existsQuery [.text (c.table name)] s))
    (truth : ∀ reply s, Q reply s → Leaves S R (truth? reply, s)) :
    Triple c P (Talk.tableExists name) S R := by
  intro s like hP
  rw [← like.client?] at hk
  rw [← like.inTransaction] at ht
  have post := h _ hP
  rw [← like.table] at post
  rw [carry_tableExists, outcome_tableExists hk ht]
  rcases h : Server.run k existsQuery [.text (s.connection.table name)] s.world.server with
    ⟨e | r, s'⟩
  · rw [h] at post
    exact ⟨like, post⟩
  · rw [h] at post
    have said := truth r s' post
    refine ⟨like, ?_⟩
    dsimp only
    cases answer : truth? r with
    | ok b =>
      rw [answer] at said
      exact said
    | error m =>
      rw [answer] at said
      exact said

/-- A reply need not be a truth value, and then the question fails though the server answered it. -/
lemma tableExists (hk : c.client? = some k) (ht : c.inTransaction = true) {name : String}
    {Q : σ → Prop}
    (h : ∀ s, P s → Leaves (fun _ => Q) R (Server.run k existsQuery [.text (c.table name)] s))
    (sub : ∀ s, Q s → R s) :
    Triple c P (Talk.tableExists name) (fun _ => Q) R := by
  refine tableExists_reply hk ht h fun reply s hQ => ?_
  cases truth? reply with
  | ok b => exact hQ
  | error m => exact sub s hQ

/-- A query gives the first row of the reply, if the reply has columns. -/
lemma query (hk : c.client? = some k) (ht : c.inTransaction = true) {sql : String}
    {ps : List Parameter} {Q : Reply → σ → Prop} {f : Cursor → Option Row → Talk β}
    (h : ∀ s, P s → Leaves Q R (Server.run k (c.adapt sql) ps s))
    (rest : ∀ cursor reply, cursor.columns = reply.columns →
      Triple c (Q reply) (f cursor (if reply.columns.isEmpty then [] else reply.rows).head?) S R) :
    Triple c P (Talk.execute sql ps >>= fun cursor => Talk.fetchOne cursor >>= f cursor) S R := by
  intro s like hP
  rw [← like.client?] at hk
  rw [← like.inTransaction] at ht
  have post := h _ hP
  rw [← like.adapt] at post
  rw [carry_bind, carry_execute, outcome_execute hk ht]
  rcases h : Server.run k (s.connection.adapt sql) ps s.world.server with ⟨e | r, s'⟩
  · rw [h] at post
    exact ⟨like, post⟩
  · rw [h] at post
    dsimp only
    rw [carry_bind, carry_fetchOne, outcome_fetchOne]
    simp only [List.getElem?_concat_length, Option.getD_some, List.head?_take, Nat.one_ne_zero,
      if_false]
    exact rest _ r rfl _ (like.trans ⟨_, rfl⟩) post

/-- To fetch a row is no matter to the server. -/
lemma fetchOne {cursor : Cursor} : Triple c P (Talk.fetchOne cursor) (fun _ => P) R := by
  intro s like hP
  rw [carry_fetchOne, outcome_fetchOne]
  exact ⟨like, hP⟩

end Talk.Triple
end Tenancy.Connection
