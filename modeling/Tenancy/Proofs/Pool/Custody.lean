import Tenancy.Proofs.Connection.Adapt
import Tenancy.Proofs.Connection.Requests
import Tenancy.Proofs.Pool.Stock

/-!
# What a pooled connection does to its pool

A connection takes a client from its pool for a transaction and gives it back at the end. `Order` says of a
connection between two requests that its client is its own, and that no transaction is open of which it
does not know. Every request keeps that order (`Order.answer`), whatever the engine refuses and whenever it
loses a connection: the transaction of a client that goes back was ended before, or never begun.
-/

namespace Tenancy.Connection
open Engine
variable {e : Engine} {number : Nat} {away busy : Client → Prop} {s : Scene (State e)} {k : Client}

/-- A connection of a pool and its clients, where others have the clients that are `away`, those that are
`busy` in transactions. -/
structure Order (number : Nat) (away busy : Client → Prop) (s : Scene (State e)) : Prop where
  pooled : ∃ held, s.connection.channel = .pooled number held
  holds : s.connection.inTransaction = true → ∃ k, s.connection.client? = some k
  own : ∀ k, s.connection.client? = some k → ¬ away k
  others : ∀ k, busy k → away k
  stock : Pool.Stock number (fun k => away k ∨ s.connection.client? = some k)
    (fun k => busy k ∨ s.connection.client? = some k ∧ s.connection.inTransaction = true) s.world

namespace Order

/-- The client of a connection is in no transaction of which the connection does not know. -/
lemma not_isOpen (h : Order number away busy s) (held : s.connection.client? = some k)
    (outside : s.connection.inTransaction = false) : ¬ (s.world.server.sessions k).IsOpen := by
  intro isOpen
  rcases h.stock.owned k isOpen with others | ⟨-, inside⟩
  · exact h.own k held (h.others k others)
  · rw [outside] at inside
    cases inside

/-- To keep a result leaves the order. -/
lemma concluded (h : Order number away busy s) (result : Except StatementFault Reply) :
    Order number away busy (Connection.concluded s result) := by
  cases result with
  | error fault => exact h
  | ok reply => exact ⟨h.pooled, h.holds, h.own, h.others, h.stock.world rfl rfl⟩

/-- The order is kept where the server did something for the client of the connection, and the connection
knows of its transaction. -/
lemma served (h : Order number away busy s) (held : s.connection.client? = some k) {server : State e}
    (alone : State.Alone k s.world.server server) (inTransaction : Bool)
    (knows : (server.sessions k).IsOpen → inTransaction = true) :
    Order number away busy
      (Scene.onServer { s with connection := { s.connection with inTransaction } } server) where
  pooled := h.pooled
  holds _ := ⟨k, held⟩
  own := h.own
  others := h.others
  stock := by
    refine h.stock.served alone (fun isOpen => .inr ⟨held, knows isOpen⟩) fun d other works => ?_
    rcases works with works | ⟨held', -⟩
    · exact .inl works
    · rw [held] at held'
      cases held'
      exact absurd rfl other

/-- So does what a client does on the server for itself, if the connection knows of its transaction. -/
lemma onServer (h : Order number away busy s) (held : s.connection.client? = some k) {server : State e}
    (alone : State.Alone k s.world.server server)
    (knows : (server.sessions k).IsOpen → s.connection.inTransaction = true) :
    Order number away busy (Scene.onServer s server) :=
  h.served held alone s.connection.inTransaction knows

/-- A connection without a client adds nothing to what the others have. -/
lemma ofNone {c : Connection} {w : World (State e)} (channel : c.channel = .pooled number none)
    (outside : c.inTransaction = false) (others : ∀ k, busy k → away k)
    (stock : Pool.Stock number away busy w) : Order number away busy ⟨c, w⟩ := by
  have none (d : Client) : c.client? ≠ some d := by simp [client?, channel]
  refine ⟨⟨_, channel⟩, fun inside => ?_, fun d eq => absurd eq (none d), others,
    stock.congr (fun d => ?_) fun d => .inl⟩
  · exact absurd (outside.symm.trans inside) (by decide)
  · exact or_iff_left (none d)

/-- A connection without a client leaves the stock to the others. -/
lemma stock_of_none (h : Order number away busy s)
    (channel : s.connection.channel = .pooled number none) :
    Pool.Stock number away busy s.world := by
  have none (d : Client) : s.connection.client? ≠ some d := by simp [client?, channel]
  refine h.stock.congr (fun d => ?_) fun d works => ?_
  · exact (or_iff_left (none d)).symm
  · exact works.resolve_right fun own => none d own.1

/-- It is in no transaction. -/
lemma not_inTransaction_of_none (h : Order number away busy s)
    (channel : s.connection.channel = .pooled number none) : s.connection.inTransaction = false := by
  by_contra inside
  obtain ⟨k, holds⟩ := h.holds (by simpa using inside)
  rw [client?, channel] at holds
  cases holds

/-- A connection with a client has taken it from what the others left. -/
lemma ofSome {c : Connection} {w : World (State e)} (channel : c.channel = .pooled number (some k))
    (others : ∀ k, busy k → away k) (free : ¬ away k)
    (stock : Pool.Stock number (fun d => away d ∨ d = k) busy w) : Order number away busy ⟨c, w⟩ := by
  have holds : c.client? = some k := by rw [client?, channel]
  have same (d : Client) : c.client? = some d ↔ d = k := by rw [holds, Option.some_inj, eq_comm]
  refine ⟨⟨_, channel⟩, fun _ => ⟨k, holds⟩, fun d eq => ?_, others,
    stock.congr (fun d => ?_) fun d => .inl⟩
  · rwa [(same d).1 eq]
  · exact or_congr_right (same d)

/-- The client of a connection is in use, and busy in a transaction. -/
lemma stock_of_some (h : Order number away busy s)
    (channel : s.connection.channel = .pooled number (some k)) :
    Pool.Stock number (fun d => away d ∨ d = k)
      (fun d => busy d ∨ d = k ∧ s.connection.inTransaction = true) s.world := by
  have same (d : Client) : s.connection.client? = some d ↔ d = k := by
    rw [client?, channel, Option.some_inj, eq_comm]
  refine h.stock.congr (fun d => ?_) fun d works => ?_
  · exact or_congr_right (same d).symm
  · exact works.imp_right fun own => ⟨(same d).1 own.1, own.2⟩

/-- Outside of a transaction a client is given back in order. -/
lemma released (h : Order number away busy s) (outside : s.connection.inTransaction = false) :
    Order number away busy (Connection.released s) := by
  obtain ⟨held, channel⟩ := h.pooled
  cases held with
  | none => rwa [released_free fun number k eq => by rw [channel] at eq; cases eq]
  | some k =>
    have taken : Pool.Stock number (fun d => away d ∨ d = k) busy s.world :=
      (h.stock_of_some channel).congr (fun _ => .rfl) fun d works =>
        works.resolve_right fun own => absurd (outside.symm.trans own.2) (by decide)
    have free := h.own k (by rw [client?, channel])
    rw [released_held channel]
    exact ofNone rfl outside h.others (taken.giveBack free)

/-- Getting a client keeps the order. -/
theorem client (h : Order number away busy s) :
    Order number away busy (outcome Connection.client s).2 := by
  obtain ⟨c, w⟩ := s
  obtain ⟨held, channel⟩ := h.pooled
  cases held with
  | some k =>
    rw [outcome_client (s := ⟨c, w⟩) (by rw [client?, channel])]
    exact h
  | none =>
    have outside := h.not_inTransaction_of_none channel
    have took := (h.stock_of_none channel).take h.others
    dsimp only at channel
    rw [Connection.client, outcome_bind, outcome_get]
    simp only [channel, outcome_bind, outcome_within]
    rcases eq : Action.outcome (Pool.take number) w with ⟨e | k, w'⟩
    · rw [eq] at took
      exact ofNone channel outside h.others took
    · rw [eq] at took
      obtain ⟨free, quiet, taken⟩ := took
      dsimp only
      cases schema : c.address.schema? with
      | none => exact ofSome rfl h.others free taken
      | some name =>
        simp only [outcome_bind, outcome_attempt, outcome_within, Client.setSchema,
          Client.outcome_send]
        -- The client is told where to look for tables before anybody has it.
        have told (sql : String) (reading : Reading.ofSql sql = .session) :
            Pool.Stock number (fun d => away d ∨ d = k) busy
              { w' with server := (Server.send k sql w'.server).2 } := by
          refine taken.served (State.Alone.send w'.server k _) (fun isOpen => ?_) fun _ _ => id
          refine absurd isOpen (State.not_isOpen_receive quiet (.inl ?_))
          rw [reading]
          decide
        specialize told _ (Reading.ofSql_setSchema (String.ofList (Sql.quoteName name.toList)))
        rcases eq : Server.send k _ w'.server with ⟨e | u, server⟩
        · rw [eq] at told
          exact ofNone channel outside h.others (told.giveBack free)
        · rw [eq] at told
          exact ofSome rfl h.others free told

/-- A transaction is opened in order. -/
lemma begin (h : Order number away busy s) : Order number away busy (outcome Connection.begin s).2 := by
  cases inside : s.connection.inTransaction with
  | true =>
    rwa [outcome_begin_inside inside]
  | false =>
    have got := h.client
    rw [outcome_begin inside]
    rcases eq : outcome Connection.client s with ⟨failure | k, s₁⟩
    · rw [eq] at got
      exact got
    · rw [eq] at got
      obtain ⟨holds, channel, connection⟩ := exists_of_client eq
      have outside : s₁.connection.inTransaction = false := by rw [connection]; exact inside
      have alone := State.Alone.send s₁.world.server k "BEGIN"
      have quiet := got.not_isOpen holds outside
      dsimp only at got alone quiet ⊢
      -- A transaction that could not be opened is not open, and the connection says so.
      rcases sent : Server.send k "BEGIN" s₁.world.server with ⟨fault | u, server⟩
      · have failed := State.not_isOpen_send quiet (congrArg Prod.fst sent)
        rw [sent] at alone failed
        exact got.onServer holds alone fun isOpen => absurd isOpen failed
      · rw [sent] at alone
        exact got.served holds alone true fun _ => rfl

/-- It is ended in order. -/
lemma endTransaction (h : Order number away busy s) {command : String}
    (ends : (Reading.ofSql command).isEnd) :
    Order number away busy (outcome (Connection.endTransaction command) s).2 := by
  cases inside : s.connection.inTransaction with
  | false =>
    rwa [outcome_end_outside inside]
  | true =>
    obtain ⟨k, holds⟩ := h.holds inside
    rw [outcome_end holds inside]
    refine Order.released (h.served holds (State.Alone.send _ _ _) false fun isOpen => ?_) rfl
    exact absurd isOpen (State.not_isOpen_receive_end ends)

/-- Running a statement keeps the order, if it is not one that opens a transaction by itself. -/
lemma ran (h : Order number away busy s) (holds : s.connection.client? = some k) {sql : String}
    {ps : List Parameter} (plain : Reading.ofSql (s.connection.adapt sql) ≠ .begin) {server : State e}
    (begun : if opens s.connection then Server.send k "BEGIN" s.world.server = (.ok (), server)
      else server = s.world.server) :
    Order number away busy (Connection.ran s k sql ps server) := by
  unfold Connection.ran
  cases opened : opens s.connection with
  | true =>
    rw [opened, if_pos rfl] at begun
    have alone : State.Alone k s.world.server server := by
      have sent := State.Alone.send s.world.server k "BEGIN"
      rwa [begun] at sent
    exact h.served holds (alone.trans (.run _ _ _ _)) true fun _ => rfl
  | false =>
    rw [opened, if_neg (by decide)] at begun
    subst begun
    have alone := State.Alone.run s.world.server k (s.connection.adapt sql) ps
    cases inside : s.connection.inTransaction with
    | true => exact h.onServer holds alone fun _ => inside
    | false =>
      -- A statement by itself leaves no transaction open, and so the client can go back.
      have quiet : ¬ ((Server.run k (s.connection.adapt sql) ps s.world.server).2.sessions k).IsOpen :=
        State.not_isOpen_receive (h.not_isOpen holds inside) (.inl plain)
      exact (h.onServer holds alone fun isOpen => absurd isOpen quiet).released inside

/-- A statement is executed in order, if it opens no transaction on the server's side alone. -/
lemma execute (h : Order number away busy s) {sql : String}
    (plain : Reading.ofSql (s.connection.adapt sql) ≠ .begin) (ps : List Parameter) :
    Order number away busy (outcome (Connection.execute sql ps) s).2 := by
  have got := h.client
  rw [outcome_execute_client]
  rcases eq : outcome Connection.client s with ⟨failure | k, s₁⟩
  · rw [eq] at got
    exact got
  · rw [eq] at got
    obtain ⟨holds, channel, connection⟩ := exists_of_client eq
    have same : s₁.connection.adapt sql = s.connection.adapt sql := by rw [connection]; rfl
    dsimp only at got ⊢
    rcases execute_cases holds sql ps with ⟨opened, fault, server, sent, result⟩ | ⟨server, begun, result⟩
    · have alone := State.Alone.send s₁.world.server k "BEGIN"
      have outside : s₁.connection.inTransaction = false := by
        simp only [opens, Bool.and_eq_true, Bool.not_eq_true'] at opened
        exact opened.2
      have failed := State.not_isOpen_send (got.not_isOpen holds outside) (congrArg Prod.fst sent)
      rw [sent] at alone failed
      rw [result]
      exact got.onServer holds alone fun isOpen => absurd isOpen failed
    · rw [result]
      exact (got.ran holds (by rwa [same]) begun).concluded _

/-- The question whether there is a table keeps the order. -/
lemma tableExists (h : Order number away busy s) (name : String) :
    Order number away busy (outcome (Connection.tableExists name) s).2 := by
  have got := h.client
  rw [outcome_tableExists_client]
  rcases eq : outcome Connection.client s with ⟨failure | k, s₁⟩
  · rw [eq] at got
    exact got
  · rw [eq] at got
    obtain ⟨holds, -⟩ := exists_of_client eq
    dsimp only at got ⊢
    have asked := got.onServer holds
      (State.Alone.run s₁.world.server k existsQuery [.text (s₁.connection.table name)]) fun isOpen => by
        by_contra outside
        have quiet := got.not_isOpen holds (by simpa using outside)
        exact State.not_isOpen_receive quiet (.inl (by rw [ofSql_existsQuery]; decide)) isOpen
    rcases tableExists_cases holds name with ⟨fault, result⟩ | ⟨answer, result⟩
    · rw [result]
      exact asked
    · rw [result]
      cases inside : s₁.connection.inTransaction with
      | true => exact asked
      | false => exact asked.released inside

end Order

/-- Whether a request is none that opens a transaction behind the connection's back. -/
def Request.Plain (c : Connection) : Request → Prop
  | execute sql _ => Reading.ofSql (c.adapt sql) ≠ .begin
  | _ => True

/-- A statement with a gap opens none. -/
lemma Request.plain_execute {c : Connection} (keeps : ∀ r ∈ c.rules, r.KeepsGaps) {sql : String}
    (gap : sql.toList.any Sql.isGap) (ps : List Parameter) : (Request.execute sql ps).Plain c := by
  intro begins
  refine adapt_not_mem keeps gap ?_
  rw [Reading.eq_of_begin begins]
  exact List.mem_cons_self

/-- Every request keeps the order. -/
theorem Order.answer (h : Order number away busy s) {r : Request} (plain : r.Plain s.connection) :
    Order number away busy (outcome (Connection.answer r) s).2 := by
  cases r with
  | inTransaction => exact h
  | begin => exact h.begin
  | commit => exact h.endTransaction rfl
  | rollback => exact h.endTransaction rfl
  | execute sql ps => exact h.execute plain ps
  | fetchOne cursor =>
    change Order number away busy (outcome (within cursor.fetchOne) s).2
    rw [outcome_fetchOne]
    exact ⟨h.pooled, h.holds, h.own, h.others, h.stock.world rfl rfl⟩
  | tableExists name => exact h.tableExists name

/-- Whatever becomes of a connection that is put away, the others of the pool find it in order. -/
theorem Order.drop (h : Order number away busy s) :
    Pool.Stock number away busy (Action.outcome s.connection.drop s.world).2 := by
  obtain ⟨held, channel⟩ := h.pooled
  cases held with
  | none =>
    have same : (Action.outcome s.connection.drop s.world).2 = s.world := by
      rw [Connection.drop, channel]
      rfl
    rw [same]
    exact h.stock_of_none channel
  | some k =>
    have stock := h.stock_of_some channel
    rw [Connection.drop, channel]
    cases inside : s.connection.inTransaction with
    | true => exact (stock.congr (fun _ => .rfl) fun d => Or.imp_right And.left).discard
    | false =>
      have taken : Pool.Stock number (fun d => away d ∨ d = k) busy s.world :=
        stock.congr (fun _ => .rfl) fun d works =>
          works.resolve_right fun own => absurd (inside.symm.trans own.2) (by decide)
      exact taken.giveBack (h.own k (by rw [client?, channel]))

end Tenancy.Connection
