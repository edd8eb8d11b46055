import Tenancy.Proofs.Connection.Adapt
import Tenancy.Proofs.Connection.Requests

/-!
# When a connection keeps its client

A connection of a pool means to hold a client exactly as long as it is in a transaction (`Tidy`). In a
transaction it does hold one, always. Outside of one a client stays with it in two ways: the statement that
should open a transaction fails, or the question whether there is a table does (`Failure.Strands`). The
client stays until another call needs it; otherwise calls leave the connection tidy (`Calls.holds_iff`).
-/

namespace Tenancy

/-- Whether a failure is that of one of the two statements after which the client does not go back. -/
def Failure.Strands : Failure → Prop
  | .statement ⟨sql, _⟩ => sql = "BEGIN" ∨ sql = Connection.existsQuery
  | _ => False

namespace Connection
variable {σ : Type} [Server σ] {number : Nat} {s : Scene σ} {k : Client}

/-- Whether a connection holds a client exactly when it is in a transaction. -/
def Tidy (c : Connection) : Prop := c.client?.isSome = c.inTransaction

/-- A connection of a pool, that holds a client at least when it is in a transaction. -/
structure Proper (number : Nat) (c : Connection) : Prop where
  pooled : ∃ held, c.channel = .pooled number held
  holds : c.inTransaction = true → c.client?.isSome = true

/-- What a call makes of a connection that was tidy before or not: it is tidy if it was, unless one of two
statements failed. -/
structure Leads {α : Type} (number : Nat) (tidy : Prop) (o : Except Failure α × Scene σ) : Prop where
  proper : Proper number o.2.connection
  tidy : tidy → o.2.connection.Tidy ∨ ∃ failure, o.1 = .error failure ∧ failure.Strands

omit [Server σ] in
/-- A connection whose client was given back is outside of transactions and tidy. -/
lemma Proper.released (h : Proper number s.connection) (outside : s.connection.inTransaction = false) :
    Proper number (Connection.released s).connection ∧ (Connection.released s).connection.Tidy := by
  obtain ⟨held, channel⟩ := h.pooled
  cases held with
  | none =>
    rw [released_free fun number k eq => by rw [channel] at eq; cases eq]
    refine ⟨h, ?_⟩
    rw [Tidy, outside, client?, channel]
    rfl
  | some k =>
    rw [released_held channel]
    refine ⟨⟨⟨none, rfl⟩, fun inside => ?_⟩, outside.symm⟩
    exact absurd (outside.symm.trans inside) (by decide)

/-- Getting a client either gives one or leaves a connection outside of transactions without one. -/
lemma Proper.client (h : Proper number s.connection) :
    (∃ k s₁, outcome client s = (.ok k, s₁) ∧ s₁.connection.client? = some k ∧
      ∃ held, s₁.connection = { s.connection with channel := .pooled number held }) ∨
    ∃ failure s₁, outcome client s = (.error failure, s₁) ∧ Proper number s₁.connection ∧
      s₁.connection.Tidy := by
  obtain ⟨held, channel⟩ := h.pooled
  obtain ⟨c, w⟩ := s
  dsimp only at channel h
  cases held with
  | some k =>
    have holds : c.client? = some k := by rw [client?, channel]
    refine .inl ⟨k, ⟨c, w⟩, outcome_client holds, holds, some k, ?_⟩
    rw [← channel]
  | none =>
    have free : c.client? = none := by rw [client?, channel]
    have outside : c.inTransaction = false := by
      refine Bool.eq_false_iff.2 fun inside => ?_
      have holds := h.holds inside
      rw [free] at holds
      cases holds
    have tidy : c.Tidy := by rw [Tidy, free, outside]; rfl
    rw [Connection.client, outcome_bind, outcome_get]
    simp only [channel, outcome_bind, outcome_within]
    rcases Action.outcome (Pool.take number) w with ⟨failure | k, w'⟩
    · exact .inr ⟨failure, _, rfl, h, tidy⟩
    · dsimp only
      cases c.address.schema? with
      | none => exact .inl ⟨k, _, rfl, rfl, some k, rfl⟩
      | some name =>
        simp only [outcome_bind, outcome_attempt, outcome_within]
        rcases Action.outcome (k.setSchema name) w' with ⟨failure | u, w''⟩
        · exact .inr ⟨failure, _, rfl, h, tidy⟩
        · exact .inl ⟨k, _, rfl, rfl, some k, rfl⟩

namespace Leads
variable {α : Type} {tidy : Prop} {o : Except Failure α × Scene σ}

omit [Server σ] in
/-- What leaves a connection tidy does so from anywhere. -/
lemma of_tidy (proper : Proper number o.2.connection) (now : o.2.connection.Tidy) :
    Leads number tidy o := ⟨proper, fun _ => .inl now⟩

omit [Server σ] in
/-- Less may be known of the connection before. -/
lemma mono {before : Prop} (h : Leads number before o) (imp : tidy → before) : Leads number tidy o :=
  ⟨h.proper, fun was => h.tidy (imp was)⟩

omit [Server σ] in
/-- A connection in a transaction holds its client, and is tidy. -/
lemma of_inTransaction (proper : Proper number o.2.connection)
    (inside : o.2.connection.inTransaction = true) : Leads number tidy o :=
  of_tidy proper (by rw [Tidy, proper.holds inside, inside])

omit [Server σ] in
/-- A failure may leave a connection untidy if it is one of two. -/
lemma of_strands {failure : Failure} (proper : Proper number s.connection)
    (strands : failure.Strands) : Leads (α := α) number tidy (.error failure, s) :=
  ⟨proper, fun _ => .inr ⟨failure, rfl, strands⟩⟩

end Leads

namespace Proper

omit [Server σ] in
/-- A connection that holds a client is a proper one. -/
lemma of_held {c : Connection} {held : Option Client} (channel : c.channel = .pooled number held)
    (holds : c.client? = some k) : Proper number c :=
  ⟨⟨held, channel⟩, fun _ => by rw [holds]; rfl⟩

/-- A transaction is opened, or the client is held when that fails. -/
lemma begin (h : Proper number s.connection) (tidy : Prop) : Leads number tidy (outcome begin s) := by
  cases inside : s.connection.inTransaction with
  | true =>
    rw [outcome_begin_inside inside]
    exact .of_inTransaction h inside
  | false =>
    rw [outcome_begin inside]
    rcases h.client with ⟨k, s₁, got, holds, held, connection⟩ | ⟨failure, s₁, got, proper, free⟩
    · rw [got]
      have channel : s₁.connection.channel = .pooled number held := by rw [connection]
      have proper : Proper number s₁.connection := .of_held channel holds
      dsimp only
      rcases Server.send k "BEGIN" s₁.world.server with ⟨fault | u, server⟩
      · exact .of_strands proper (.inl rfl)
      · exact .of_inTransaction (.of_held channel holds) rfl
    · rw [got]
      exact .of_tidy proper free

/-- Its end leaves a tidy connection tidy. -/
lemma endTransaction (h : Proper number s.connection) (command : String) :
    Leads number s.connection.Tidy (outcome (endTransaction command) s) := by
  cases inside : s.connection.inTransaction with
  | false =>
    rw [outcome_end_outside inside]
    exact ⟨h, .inl⟩
  | true =>
    obtain ⟨k, holds⟩ := Option.isSome_iff_exists.1 (h.holds inside)
    rw [outcome_end holds inside]
    obtain ⟨proper, tidy⟩ := Proper.released
      (s := Scene.onServer { s with connection := { s.connection with inTransaction := false } }
        (Server.send k command s.world.server).2) ⟨h.pooled, fun inside => by cases inside⟩ rfl
    exact .of_tidy proper tidy

/-- A statement that was sent leaves a connection with a client tidy. -/
lemma ran (holds : s.connection.client? = some k) (h : Proper number s.connection) (sql : String)
    (ps : List Parameter) (server : σ) :
    Proper number (Connection.ran s k sql ps server).connection ∧
      (Connection.ran s k sql ps server).connection.Tidy := by
  have some : s.connection.client?.isSome = true := by rw [holds]; rfl
  unfold Connection.ran
  cases opened : opens s.connection with
  | true => exact ⟨⟨h.pooled, fun _ => some⟩, some⟩
  | false =>
    cases inside : s.connection.inTransaction with
    | true => exact ⟨h, some.trans inside.symm⟩
    | false => exact Proper.released (s := Scene.onServer s _) h inside

omit [Server σ] in
/-- So does a result that is kept. -/
lemma concluded (h : Proper number s.connection ∧ s.connection.Tidy)
    (result : Except StatementFault Reply) :
    Proper number (Connection.concluded s result).connection ∧
      (Connection.concluded s result).connection.Tidy := by
  cases result with
  | error fault => exact h
  | ok reply => exact ⟨⟨h.1.pooled, h.1.holds⟩, h.2⟩

/-- A statement leaves a connection tidy, or stranded with the failure. -/
lemma execute (h : Proper number s.connection) (sql : String) (ps : List Parameter) (tidy : Prop) :
    Leads number tidy (outcome (execute sql ps) s) := by
  rw [outcome_execute_client]
  rcases h.client with ⟨k, s₁, got, holds, held, connection⟩ | ⟨failure, s₁, got, proper, free⟩
  · rw [got]
    have proper : Proper number s₁.connection := .of_held (by rw [connection]) holds
    dsimp only
    -- Only where no transaction can be opened is the client not given back.
    rcases execute_cases holds sql ps with ⟨-, fault, server, -, result⟩ | ⟨server, -, result⟩
    · rw [result]
      exact .of_strands (s := Scene.onServer s₁ server) proper (.inl rfl)
    · obtain ⟨proper, now⟩ := Proper.concluded (Proper.ran holds proper sql ps server)
        (Server.run k (s₁.connection.adapt sql) ps server).1
      rw [← result] at proper now
      exact .of_tidy proper now
  · rw [got]
    exact .of_tidy proper free

/-- So does a question for a table. -/
lemma tableExists (h : Proper number s.connection) (name : String) (tidy : Prop) :
    Leads number tidy (outcome (tableExists name) s) := by
  rw [outcome_tableExists_client]
  rcases h.client with ⟨k, s₁, got, holds, held, connection⟩ | ⟨failure, s₁, got, proper, free⟩
  · rw [got]
    have proper : Proper number s₁.connection := .of_held (by rw [connection]) holds
    dsimp only
    rcases tableExists_cases holds name with ⟨fault, result⟩ | ⟨answer, result⟩
    · rw [result]
      exact .of_strands (s := Scene.onServer s₁ _) proper (.inr rfl)
    · rw [result]
      cases inside : s₁.connection.inTransaction with
      | true => exact .of_inTransaction proper inside
      | false =>
        obtain ⟨proper, now⟩ := Proper.released
          (s := Scene.onServer s₁
            (Server.run k existsQuery [.text (s₁.connection.table name)] s₁.world.server).2)
          proper inside
        exact .of_tidy proper now
  · rw [got]
    exact .of_tidy proper free

end Proper

/-- What somebody does with a connection that he does not share. -/
inductive Call where
  | ask (r : Request)
  | setAutocommit (autocommit : Bool)

/-- Whether a call takes no client: it looks at something, or ends a transaction if there is one. -/
def Call.IsIdle : Call → Prop
  | .ask .begin | .ask (.execute _ _) | .ask (.tableExists _) => False
  | _ => True

/-- The outcome of a call, without its value. -/
def call : Call → Step σ Unit
  | .ask r => do let _ ← answer r
  | .setAutocommit autocommit => change fun c => { c with autocommit }

/-- A request for something leads to the same without its value. -/
lemma Leads.ask {r : Request} {tidy : Prop} (h : Leads number tidy (outcome (answer r) s)) :
    Leads number tidy (outcome (call (.ask r)) s) := by
  obtain ⟨proper, now⟩ := h
  simp only [call, outcome_bind]
  rcases eq : outcome (answer r) s with ⟨failure | a, s'⟩
  · rw [eq] at proper now
    refine ⟨proper, fun before => (now before).imp_right ?_⟩
    rintro ⟨failure, failed, strands⟩
    cases failed
    exact ⟨failure, rfl, strands⟩
  · rw [eq] at proper now
    refine ⟨proper, fun before => (now before).imp_right ?_⟩
    rintro ⟨failure, failed, strands⟩
    cases failed

/-- Every call leaves a connection tidy unless one of two statements fails, or it was not tidy before and
the call takes no client. -/
theorem Proper.call (h : Proper number s.connection) (x : Call) :
    Leads number (x.IsIdle → s.connection.Tidy) (outcome (call x) s) := by
  cases x with
  | setAutocommit autocommit => exact ⟨⟨h.pooled, h.holds⟩, fun tidy => .inl (tidy trivial)⟩
  | ask r =>
    refine Leads.ask ?_
    cases r with
    | inTransaction => exact ⟨h, fun tidy => .inl (tidy trivial)⟩
    | begin => exact h.begin _
    | commit => exact (h.endTransaction "COMMIT").mono fun tidy => tidy trivial
    | rollback => exact (h.endTransaction "ROLLBACK").mono fun tidy => tidy trivial
    | execute sql ps => exact h.execute sql ps _
    | fetchOne cursor => exact ⟨h, fun tidy => .inl (tidy trivial)⟩
    | tableExists name => exact h.tableExists name _

/-- Calls and what came of them. -/
abbrev History := List (Call × Except Failure Unit)

/-- Whether the last call that needed a client, with the latest call first, failed in one of two ways. -/
def History.Strands (history : History) : Prop :=
  ∃ later x failure earlier, history = later ++ (x, .error failure) :: earlier ∧
    failure.Strands ∧ ∀ y ∈ later, y.1.IsIdle

/-- Calls of one connection one after the other. What becomes of the world between two calls does not
matter. -/
inductive Calls (σ : Type) [Server σ] (c : Connection) : History → Connection → Prop where
  | nil : Calls σ c [] c
  | cons {history : History} {d : Connection} (calls : Calls σ c history d) (w : World σ) (x : Call) :
    Calls σ c ((x, (outcome (call x) ⟨d, w⟩).1) :: history) (outcome (call x) ⟨d, w⟩).2.connection

/-- After any calls a connection is proper, and it is tidy unless it is stranded. -/
lemma Calls.proper {c d : Connection} {history : History} (calls : Calls σ c history d)
    (proper : Proper number c) (tidy : c.Tidy) : Proper number d ∧ (d.Tidy ∨ history.Strands) := by
  induction calls with
  | nil => exact ⟨proper, .inl tidy⟩
  | @cons history d calls w x ih =>
    obtain ⟨proper, before⟩ := ih
    obtain ⟨proper, now⟩ := proper.call (s := ⟨d, w⟩) x
    refine ⟨proper, ?_⟩
    -- An idle call on a connection that is not tidy leaves it so: what stranded it happened earlier.
    by_cases kept : x.IsIdle → d.Tidy
    · refine (now kept).imp_right ?_
      rintro ⟨failure, failed, strands⟩
      exact ⟨[], x, failure, history, by rw [failed]; rfl, strands, by simp⟩
    · obtain ⟨idle, untidy⟩ := Classical.not_imp.1 kept
      obtain ⟨later, y, failure, earlier, eq, strands, idles⟩ := before.resolve_left untidy
      refine .inr ⟨_ :: later, y, failure, earlier, congrArg _ eq, strands, ?_⟩
      exact List.forall_mem_cons.2 ⟨idle, idles⟩

/-- After each call a connection in a transaction holds a client of its pool. One that holds a client
outside of a transaction was left with it by the last call that needed one: a transaction could not be
opened, or the question whether there is a table failed. -/
theorem Calls.holds_iff {address : Address} {rules : List Sql.Rule} {lease : Option Lease}
    {history : History} {d : Connection}
    (calls : Calls σ { Connection.pooled address number with rules, lease } history d) :
    (d.inTransaction = true → ∃ k, d.channel = .pooled number (some k)) ∧
    ((∃ k, d.channel = .pooled number (some k)) → d.inTransaction = true ∨ history.Strands) := by
  obtain ⟨proper, cause⟩ := calls.proper ⟨⟨none, rfl⟩, fun inside => by cases inside⟩ rfl
  obtain ⟨held, channel⟩ := proper.pooled
  have holds : d.client? = held := by rw [client?, channel]
  refine ⟨fun inside => ?_, ?_⟩
  · obtain ⟨k, some⟩ := Option.isSome_iff_exists.1 (proper.holds inside)
    exact ⟨k, by rw [channel, ← holds, some]⟩
  · rintro ⟨k, channel'⟩
    refine cause.imp_left fun tidy => ?_
    rw [Tidy, client?, channel'] at tidy
    exact tidy.symm

open Engine

/-- An engine that loses whoever sends the first statement. -/
def losingEngine : Engine := .ofDatabase fun n _ => if n = 0 then .close else .accept

/-- A connection of a pool of one client to that engine. -/
def losing : Scene (State losingEngine) :=
  let alone := Scene.rehearsal fun n _ => if n = 0 then .close else .accept
  { connection := .pooled alone.connection.address 0
    world := (Action.outcome (Pool.create alone.connection.address 1 1) alone.world).2 }

/-- A transaction cannot be opened, and then a statement that would be a transaction of its own fails. -/
theorem Calls.holds_iff_lost :
    let first := outcome (call (.ask .begin)) losing
    let second := outcome (call (.ask (.tableExists "person"))) first.2
    let history : History := [(.ask (.tableExists "person"), second.1), (.ask .begin, first.1)]
    Calls (State losingEngine) losing.connection history second.2.connection ∧
      ((∃ k, second.2.connection.channel = .pooled 0 (some k)) →
        second.2.connection.inTransaction = true ∨ history.Strands) := by
  intro first second history
  have calls : Calls (State losingEngine) losing.connection history second.2.connection :=
    (Calls.nil.cons losing.world (.ask .begin)).cons first.2.world (.ask (.tableExists "person"))
  exact ⟨calls, calls.holds_iff.2⟩

/-- A client that is lost while a transaction is opened stays with the connection, which is in no
transaction. The connection does not take another one, though it could. -/
theorem begin_strands :
    let first := outcome begin losing
    let second := outcome begin first.2
    first.1 = .error (.statement ⟨"BEGIN", .closed⟩) ∧
      first.2.connection.channel = .pooled 0 (some ⟨1⟩) ∧
      first.2.connection.inTransaction = false ∧ ¬ first.2.connection.Tidy ∧
      second.1 = .error (.statement ⟨"BEGIN", .closed⟩) ∧
      second.2.connection.channel = .pooled 0 (some ⟨1⟩) := by
  refine ⟨rfl, rfl, rfl, ?_, rfl, rfl⟩
  intro tidy
  cases tidy

end Connection
end Tenancy
