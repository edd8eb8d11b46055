import Mathlib.Logic.Function.Basic
import Tenancy.Proofs.Pool.Custody

/-!
# Connections that share a pool

Any number of connections take their clients from one pool and give them back, one request after the
other. A `Company` is the connections that there are, by numbers, and the world they share. `Company.Sound`
is the order among them, kept by every event (`Sound.step`): each has its own client, and a client with an
open transaction is held by a connection in one. So no client comes to rest in the pool before its
transaction is over (`Run.not_isOpen_idle`).
-/

namespace Tenancy
open Engine Connection

/-- Connections, by numbers, and the world around them. -/
structure Company (e : Engine) where
  connections : Nat → Option Connection
  world : World (State e)

namespace Company
variable {e : Engine} {number : Nat} {c c' : Company e} {i j : Nat} {k : Client}
  {stranger : Client → Prop}

/-- What can happen. -/
inductive Event where
  /-- Somebody connects, at an address and under a lease if need be. -/
  | connect (i : Nat) (address : Address) (rules : List Sql.Rule) (lease : Option Lease)
  /-- A connection is asked for something. -/
  | ask (i : Nat) (r : Request)
  | setAutocommit (i : Nat) (autocommit : Bool)
  /-- A connection is put away. -/
  | drop (i : Nat)
  /-- The engine loses a client. -/
  | lose (k : Client)

/-- Puts a connection in its place, or none. -/
def put (c : Company e) (i : Nat) (connection : Option Connection) (world : World (State e)) :
    Company e :=
  { connections := Function.update c.connections i connection, world }

/-- What happens to the connections and their world. -/
def step (number : Nat) (c : Company e) : Event → Company e
  | .connect i address rules lease =>
    match c.connections i with
    | none => c.put i (some { Connection.pooled address number with rules, lease }) c.world
    | some _ => c
  | .ask i r =>
    match c.connections i with
    | none => c
    | some connection =>
      let s := (outcome (answer r) ⟨connection, c.world⟩).2
      c.put i (some s.connection) s.world
  | .setAutocommit i autocommit =>
    match c.connections i with
    | none => c
    | some connection => c.put i (some { connection with autocommit }) c.world
  | .drop i =>
    match c.connections i with
    | none => c
    | some connection => c.put i none (Action.outcome connection.drop c.world).2
  | .lose k =>
    { c with world := { c.world with server := c.world.server.setSession k { closed := true } } }

/-- Whether no statement of an event opens a transaction behind the connection's back. -/
def Event.Plain (c : Company e) : Event → Prop
  | ask i r => ∀ connection, c.connections i = some connection → r.Plain connection
  | _ => True

/-- Some events one after the other. -/
inductive Run (number : Nat) : Company e → Company e → Prop where
  | nil (c : Company e) : Run number c c
  | snoc {c c' : Company e} (run : Run number c c') (event : Event) (plain : event.Plain c') :
    Run number c (c'.step number event)

/-- Whether a connection holds a client. -/
def Holds (c : Company e) (i : Nat) (k : Client) : Prop :=
  ∃ connection, c.connections i = some connection ∧ connection.client? = some k

/-- Whether a connection holds a client and is in a transaction. -/
def Works (c : Company e) (i : Nat) (k : Client) : Prop :=
  ∃ connection, c.connections i = some connection ∧ connection.client? = some k ∧
    connection.inTransaction = true

/-- A connection that works with a client holds it. -/
lemma Works.holds (h : c.Works i k) : c.Holds i k := by
  obtain ⟨connection, there, held, -⟩ := h
  exact ⟨connection, there, held⟩

/-- The clients that others than one connection have. -/
def Away (c : Company e) (stranger : Client → Prop) (i : Nat) (k : Client) : Prop :=
  stranger k ∨ ∃ j ≠ i, c.Holds j k

/-- Those of them that may be in transactions. -/
def Busy (c : Company e) (stranger : Client → Prop) (i : Nat) (k : Client) : Prop :=
  stranger k ∨ ∃ j ≠ i, c.Works j k

/-- The order among connections that share a pool, where some clients are `stranger`s to it. -/
structure Sound (number : Nat) (stranger : Client → Prop) (c : Company e) : Prop where
  pooled : ∀ i connection, c.connections i = some connection →
    ∃ held, connection.channel = .pooled number held
  holds : ∀ i connection, c.connections i = some connection → connection.inTransaction = true →
    ∃ k, connection.client? = some k
  own : ∀ i k, c.Holds i k → ¬ c.Away stranger i k
  stock : Pool.Stock number (fun k => stranger k ∨ ∃ i, c.Holds i k)
    (fun k => stranger k ∨ ∃ i, c.Works i k) c.world

section Put
variable {connection : Option Connection} {w : World (State e)}

/-- A connection that was put there holds its client. -/
lemma holds_put_self :
    (c.put i connection w).Holds i k ↔ ∃ d, connection = some d ∧ d.client? = some k := by
  simp [Holds, put]

/-- It works with it if it is in a transaction. -/
lemma works_put_self :
    (c.put i connection w).Works i k ↔
      ∃ d, connection = some d ∧ d.client? = some k ∧ d.inTransaction = true := by
  simp [Works, put]

/-- Other connections hold what they held. -/
lemma holds_put (other : j ≠ i) : (c.put i connection w).Holds j k ↔ c.Holds j k := by
  simp [Holds, put, other]

/-- They work with what they did. -/
lemma works_put (other : j ≠ i) : (c.put i connection w).Works j k ↔ c.Works j k := by
  simp [Works, put, other]

/-- A client in use is away from a connection, or held by it. -/
lemma exists_holds (i : Nat) :
    (stranger k ∨ ∃ j, c.Holds j k) ↔ c.Away stranger i k ∨ c.Holds i k := by
  rw [Away, or_assoc]
  refine or_congr_right ⟨?_, ?_⟩
  · rintro ⟨j, holds⟩
    by_cases eq : j = i
    · exact .inr (eq ▸ holds)
    · exact .inl ⟨j, eq, holds⟩
  · rintro (⟨j, -, holds⟩ | holds)
    · exact ⟨j, holds⟩
    · exact ⟨i, holds⟩

/-- A client at work is busy elsewhere, or the connection works with it. -/
lemma exists_works (i : Nat) :
    (stranger k ∨ ∃ j, c.Works j k) ↔ c.Busy stranger i k ∨ c.Works i k := by
  rw [Busy, or_assoc]
  refine or_congr_right ⟨?_, ?_⟩
  · rintro ⟨j, works⟩
    by_cases eq : j = i
    · exact .inr (eq ▸ works)
    · exact .inl ⟨j, eq, works⟩
  · rintro (⟨j, -, works⟩ | works)
    · exact ⟨j, works⟩
    · exact ⟨i, works⟩

/-- What the others have does not depend on what is put in a place. -/
lemma away_put : (c.put i connection w).Away stranger i k ↔ c.Away stranger i k :=
  or_congr_right (exists_congr fun _ => and_congr_right holds_put)

/-- What is busy elsewhere does not depend on the connection. -/
lemma busy_put : (c.put i connection w).Busy stranger i k ↔ c.Busy stranger i k :=
  or_congr_right (exists_congr fun _ => and_congr_right works_put)

end Put

/-- A client that is busy is away. -/
lemma Busy.away (h : c.Busy stranger i k) : c.Away stranger i k :=
  h.imp_right fun ⟨j, other, works⟩ => ⟨j, other, works.holds⟩

namespace Sound
variable {connection : Connection} {w : World (State e)}

/-- In a sound company every connection finds the pool in order. -/
lemma order (h : Sound number stranger c) (there : c.connections i = some connection) :
    Order number (c.Away stranger i) (c.Busy stranger i) ⟨connection, c.world⟩ where
  pooled := h.pooled i connection there
  holds := h.holds i connection there
  own k held := h.own i k ⟨connection, there, held⟩
  others _ := Busy.away
  stock := by
    refine h.stock.congr (fun k => ?_) fun k works => ?_
    · rw [exists_holds i]
      refine or_congr_right ⟨fun held => ⟨connection, there, held⟩, ?_⟩
      rintro ⟨d, there', held⟩
      rw [there] at there'
      cases there'
      exact held
    · refine ((exists_works i).1 works).imp_right ?_
      rintro ⟨d, there', held⟩
      rw [there] at there'
      cases there'
      exact held

/-- Where there is no connection the stock is as it should be. -/
lemma stock_vacant (h : Sound number stranger c) (vacant : c.connections i = none) :
    Pool.Stock number (c.Away stranger i) (c.Busy stranger i) c.world := by
  refine h.stock.congr (fun k => ?_) fun k works => ?_
  · rw [exists_holds i]
    refine (or_iff_left ?_).symm
    rintro ⟨d, there, -⟩
    rw [vacant] at there
    cases there
  · refine ((exists_works i).1 works).resolve_right ?_
    rintro ⟨d, there, -⟩
    rw [vacant] at there
    cases there

/-- There is order among all where what is put in a place goes with what the others have. -/
lemma blend (h : Sound number stranger c) {placed : Option Connection}
    (one : ∀ d, placed = some d →
      Order number (c.Away stranger i) (c.Busy stranger i) ⟨d, w⟩)
    (stock : Pool.Stock number
      (fun k => c.Away stranger i k ∨ (c.put i placed w).Holds i k)
      (fun k => c.Busy stranger i k ∨ (c.put i placed w).Works i k) w) :
    Sound number stranger (c.put i placed w) where
  pooled j d there := by
    by_cases eq : j = i
    · subst eq
      exact (one d (by simpa [Company.put] using there)).pooled
    · exact h.pooled j d (by simpa [Company.put, eq] using there)
  holds j d there := by
    by_cases eq : j = i
    · subst eq
      exact (one d (by simpa [Company.put] using there)).holds
    · exact h.holds j d (by simpa [Company.put, eq] using there)
  own j k held away := by
    by_cases eq : j = i
    · subst eq
      obtain ⟨d, there, held⟩ := holds_put_self.1 held
      exact (one d there).own k held (away_put.1 away)
    · have has := (holds_put eq).1 held
      rcases away with strange | ⟨l, other, held'⟩
      · exact h.own j k has (.inl strange)
      · by_cases eq' : l = i
        · subst eq'
          obtain ⟨d, there, held'⟩ := holds_put_self.1 held'
          exact (one d there).own k held' (.inr ⟨j, eq, has⟩)
        · exact h.own j k has (.inr ⟨l, other, (holds_put eq').1 held'⟩)
  stock := by
    refine stock.congr (fun k => ?_) fun k works => ?_
    · rw [exists_holds i, away_put]
    · rw [exists_works i, busy_put]
      exact works

/-- There is order among all if one and the others are in order. -/
lemma put (h : Sound number stranger c)
    (order : Order number (c.Away stranger i) (c.Busy stranger i) ⟨connection, w⟩) :
    Sound number stranger (c.put i (some connection) w) := by
  refine h.blend (fun d eq => by cases eq; exact order) (order.stock.congr (fun k => ?_) fun k => ?_)
  · simp [holds_put_self]
  · simp [works_put_self]

/-- A company stays sound without a connection, if the stock is right. -/
lemma remove (h : Sound number stranger c)
    (stock : Pool.Stock number (c.Away stranger i) (c.Busy stranger i) w) :
    Sound number stranger (c.put i none w) := by
  refine h.blend (fun d eq => by cases eq) (stock.congr (fun k => ?_) fun k => .inl)
  simp [holds_put_self]

/-- Every event leaves the connections in order. -/
theorem step (h : Sound number stranger c) {event : Event} (plain : event.Plain c) :
    Sound number stranger (c.step number event) := by
  cases event with
  | connect i address rules lease =>
    rw [Company.step]
    cases there : c.connections i with
    | some connection => exact h
    | none => exact h.put (.ofNone rfl rfl (fun _ => Busy.away) (h.stock_vacant there))
  | ask i r =>
    rw [Company.step]
    cases there : c.connections i with
    | none => exact h
    | some connection => exact h.put ((h.order there).answer (plain connection there))
  | setAutocommit i autocommit =>
    rw [Company.step]
    cases there : c.connections i with
    | none => exact h
    | some connection =>
      obtain ⟨pooled, holds, own, others, stock⟩ := h.order there
      exact h.put ⟨pooled, holds, own, others, stock⟩
  | drop i =>
    rw [Company.step]
    cases there : c.connections i with
    | none => exact h
    | some connection => exact h.remove (h.order there).drop
  | lose k =>
    refine ⟨h.pooled, h.holds, h.own, ?_⟩
    refine h.stock.served (k := k) ((State.Alone.refl _).setSession _) (fun isOpen => ?_) fun _ _ => id
    rw [State.sessions_setSession] at isOpen
    exact nomatch isOpen.1

end Sound

/-- What happens keeps the order. -/
theorem Run.sound (run : Run number c c') (h : Sound number stranger c) :
    Sound number stranger c' := by
  induction run with
  | nil => exact h
  | snoc run event plain ih => exact ih.step plain

/-- Nobody is connected yet. -/
def start (w : World (State e)) : Company e := { connections := fun _ => none, world := w }

/-- A company starts in order where the clients at rest are different ones and in no transactions. -/
lemma Sound.start {w : World (State e)} (ready : Pool.Ready number w) :
    Sound number (fun k => (w.server.sessions k).IsOpen) (start w) where
  pooled i connection there := by cases there
  holds i connection there := by cases there
  own i k := by
    rintro ⟨connection, there, -⟩
    cases there
  stock := ready.stock.congr (fun k => or_iff_left fun ⟨i, d, there, _⟩ => by cases there)
    fun k => .inl

/-- No client is at rest in the pool while its transaction is open: that belongs to a connection that
holds the client and is in a transaction, or to somebody who had it open from the beginning. -/
theorem Run.not_isOpen_idle {w : World (State e)} (ready : Pool.Ready number w)
    (run : Run number (start w) c) :
    (∀ pool, c.world.pools[number]? = some pool →
      ∀ k ∈ pool.idle, ¬ (c.world.server.sessions k).IsOpen) ∧
    ∀ k, (c.world.server.sessions k).IsOpen → ¬ (w.server.sessions k).IsOpen →
      ∃ i connection, c.connections i = some connection ∧
        connection.channel = .pooled number (some k) ∧ connection.inTransaction = true := by
  have sound := run.sound (.start ready)
  refine ⟨fun pool found k mem isOpen => ?_, fun k isOpen new => ?_⟩
  · refine (sound.stock.resting pool found k mem).2 ?_
    exact (sound.stock.owned k isOpen).imp_right fun ⟨i, works⟩ => ⟨i, works.holds⟩
  · obtain ⟨i, connection, there, held, inside⟩ := (sound.stock.owned k isOpen).resolve_left new
    obtain ⟨held', channel⟩ := sound.pooled i connection there
    rw [client?, channel] at held
    exact ⟨i, connection, there, by rw [channel]; exact congrArg _ held, inside⟩

/-- The engine loses a client while a connection deletes a person with it, and the connection is put away. -/
theorem Run.not_isOpen_idle_lost :
    let fate (n : Nat) (_ : String) : Fate := if n = 3 then .close else .accept
    let alone := Scene.rehearsal fate
    let w := (Action.outcome (Pool.create alone.connection.address 2 2) alone.world).2
    let sql := "DELETE FROM person WHERE handle = %s"
    let begun := (start w).step 0 (.connect 0 alone.connection.address Sql.legacyRules none)
    let asked := begun.step 0 (.ask 0 (.execute sql [.text "I0001"]))
    let c := asked.step 0 (.drop 0)
    Pool.Ready 0 w ∧ Run 0 (start w) c ∧
      ∀ pool, c.world.pools[0]? = some pool →
        ∀ k ∈ pool.idle, ¬ (c.world.server.sessions k).IsOpen := by
  intro fate alone w sql begun asked c
  have ready : Pool.Ready 0 w := by
    have created := Pool.ready_create (w := alone.world) alone.connection.address 2 2
      fun k isOpen => absurd rfl isOpen.2
    have zero : (Action.outcome (Pool.create alone.connection.address 2 2) alone.world).1 = .ok 0 := rfl
    change Pool.Ready 0 (Action.outcome (Pool.create alone.connection.address 2 2) alone.world).2
    rcases eq : Action.outcome (Pool.create alone.connection.address 2 2) alone.world with ⟨r, w'⟩
    rw [eq] at created zero
    cases zero
    exact created
  have plain : Event.Plain begun (.ask 0 (.execute sql [.text "I0001"])) := by
    intro connection there begins
    have rules : connection.rules = Sql.legacyRules := by
      have same : begun.connections 0 =
          some { Connection.pooled alone.connection.address 0 with rules := Sql.legacyRules } := rfl
      rw [same] at there
      cases there
      rfl
    refine Request.plain_execute ?_ (by decide) [.text "I0001"] begins
    rw [rules]
    exact Sql.keepsGaps_of_mem_legacyRules
  have connected : Run 0 (start w) begun :=
    (Run.nil (start w)).snoc (.connect 0 alone.connection.address Sql.legacyRules none) trivial
  have run : Run 0 (start w) c := (connected.snoc _ plain).snoc (.drop 0) trivial
  exact ⟨ready, run, (run.not_isOpen_idle ready).1⟩

end Company
end Tenancy
