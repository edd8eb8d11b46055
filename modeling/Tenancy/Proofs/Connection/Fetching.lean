import Tenancy.Proofs.Connection.Cursors
import Tenancy.Proofs.Connection.Sparing
import Tenancy.Server.Scripted

/-!
# Rows that are handed out

Statements and the fetching of their rows in any order: through the cursors that statements gave, however often a
cursor is copied, and through the connection itself. `Told` says what comes of a call by what came of those before
it: rows are handed out from those of the statement that are `left`, and the connection fetches those of the last
statement that succeeded. `Agrees` relates what came of all calls to the rows that the world keeps; every call
keeps to it (`Agrees.perform`) and so does every course of calls (`course_told`).
-/

namespace Tenancy
variable {σ : Type}

/-- The rows of a reply that can be fetched. -/
def Reply.fetchable (r : Reply) : List Row := if r.columns.isEmpty then [] else r.rows

namespace Fetching
open Connection

/-! ## Calls and events -/

/-- Through what rows are fetched: a cursor, by the number of the statement that gave it, or the connection. -/
inductive Handle where
  | cursor (i : Nat)
  | connection
  deriving DecidableEq

/-- What else is asked of a connection. -/
inductive Aside where
  | begin
  | commit
  | rollback
  | tableExists (name : String)

/-- What is asked of a connection and of the cursors that it gave. -/
inductive Call where
  | execute (sql : String) (parameters : List Parameter)
  | fetchOne (handle : Handle)
  | fetchMany (i count : Nat)
  | fetchAll (handle : Handle)
  | remaining (i : Nat)
  | aside (a : Aside)

/-- A call with what came of it. Of a statement both are recorded, what the server replied and what the caller
was given. -/
inductive Event where
  | executed (sql : String) (parameters : List Parameter) (reply : Except Failure Reply)
    (given : Except Failure Cursor)
  | fetchedOne (handle : Handle) (row : Option Row)
  | fetchedMany (i count : Nat) (rows : List Row)
  | fetchedAll (handle : Handle) (rows : List Row)
  | remained (i count : Nat)
  | aside (a : Aside)

/-- The call of an event. -/
def Event.call : Event → Call
  | .executed sql parameters _ _ => .execute sql parameters
  | .fetchedOne handle _ => .fetchOne handle
  | .fetchedMany i count _ => .fetchMany i count
  | .fetchedAll handle _ => .fetchAll handle
  | .remained i _ => .remaining i
  | .aside a => .aside a

/-- Asks something of a cursor. Whoever does not have it gets nothing. -/
def onCursor {α : Type} (held : List Cursor) (i : Nat) (nothing : α) (ask : Cursor → Step σ α) : Step σ α :=
  match held[i]? with
  | some cursor => ask cursor
  | none => return nothing

/-- Asks something of a cursor or, in its own way, of the connection. -/
def through {α : Type} (held : List Cursor) (nothing : α) (ask : Cursor → Step σ α) (own : Step σ α) :
    Handle → Step σ α
  | .cursor i => onCursor held i nothing ask
  | .connection => own

section Perform
variable [Server σ]

/-- What else is asked, whether it succeeds or not. -/
def Aside.perform : Aside → Step σ Unit
  | .begin => discard (attempt Connection.begin)
  | .commit => discard (attempt Connection.commit)
  | .rollback => discard (attempt Connection.rollback)
  | .tableExists name => discard (attempt (Connection.tableExists name))

/-- A call by somebody who holds some cursors, and those held afterwards. -/
def Call.perform (held : List Cursor) : Call → Step σ (Event × List Cursor)
  | .execute sql parameters => do
    let reply := (outcome (submit sql parameters) (← get)).1
    let given ← attempt (Connection.execute sql parameters)
    return (.executed sql parameters reply given, held ++ given.toOption.toList)
  | .fetchOne handle => do
    let row ← through held none (within ·.fetchOne) Connection.fetchOne handle
    return (.fetchedOne handle row, held)
  | .fetchMany i count => do
    let rows ← onCursor held i [] fun cursor => within (cursor.fetch count)
    return (.fetchedMany i count rows, held)
  | .fetchAll handle => do
    let rows ← through held [] (within ·.fetchAll) Connection.fetchAll handle
    return (.fetchedAll handle rows, held)
  | .remaining i => do
    let count ← onCursor held i 0 (within ·.remaining)
    return (.remained i count, held)
  | .aside a => do
    a.perform
    return (.aside a, held)

/-- A course of calls, with the events so far, the latest first, and the cursors that were given. -/
def course : List Call → List Event × List Cursor → Step σ (List Event × List Cursor)
  | [], record => return record
  | call :: calls, (past, held) => do
    let (event, held) ← call.perform held
    course calls (event :: past, held)

end Perform

/-! ## What is told by the past -/

/-- The reply to a statement that succeeded. -/
def Event.reply? : Event → Option Reply
  | .executed _ _ (.ok reply) _ => some reply
  | _ => none

/-- Through what rows were fetched. -/
def Event.handle? : Event → Option Handle
  | .fetchedOne handle _ | .fetchedAll handle _ => some handle
  | .fetchedMany i _ _ => some (.cursor i)
  | _ => none

/-- The rows that were handed out. -/
def Event.rows : Event → List Row
  | .fetchedOne _ row => row.toList
  | .fetchedMany _ _ rows | .fetchedAll _ rows => rows
  | _ => []

/-- The replies to the statements that succeeded, in order. -/
def replies : List Event → List Reply
  | [] => []
  | event :: past => replies past ++ event.reply?.toList

/-- The statement whose rows are fetched through a handle: those of the connection are the rows of the last one
that succeeded. -/
def Handle.statement (past : List Event) : Handle → Nat
  | .cursor i => i
  | .connection => (replies past).length - 1

/-- The rows of a statement that were handed out, in order, through whatever handle. -/
def handed (i : Nat) : List Event → List Row
  | [] => []
  | event :: past =>
    handed i past ++ if event.handle?.map (·.statement past) = some i then event.rows else []

/-- The rows of a statement. -/
def fetchable (past : List Event) (i : Nat) : List Row := ((replies past)[i]?.map (·.fetchable)).getD []

/-- The rows of a statement that were not handed out. -/
def left (past : List Event) (i : Nat) : List Row := (fetchable past i).drop (handed i past).length

/-- Whether an event is as the past tells. -/
def Told (past : List Event) : Event → Prop
  | .executed _ _ reply given =>
    given.map (fun cursor => (cursor.columns, cursor.rowCount)) =
      reply.map fun reply => (reply.columns, reply.rowCount)
  | .fetchedOne handle row => row = (left past (handle.statement past)).head?
  | .fetchedMany i count rows => rows = (left past i).take count
  | .fetchedAll handle rows => rows = left past (handle.statement past)
  | .remained i count => count = (left past i).length
  | .aside _ => True

/-- Whether every event is as those before it tell. -/
def AllTold : List Event → Prop
  | [] => True
  | event :: past => Told past event ∧ AllTold past

/-- Whether a reply to a statement, as a connection sends it, comes from the server. -/
def Event.Answered (σ : Type) [Server σ] (c : Connection) : Event → Prop
  | .executed sql parameters (.ok reply) _ =>
    ∃ (k : Client) (server : σ), (Server.run k (c.adapt sql) parameters server).1 = .ok reply
  | _ => True

/-- What a connection sends does not change with what is done with it. -/
lemma Event.Answered.congr [Server σ] {c d : Connection} {event : Event} (h : event.Answered σ d) (kin : c.Kin d) :
    event.Answered σ c := by
  cases event with
  | executed sql parameters reply given =>
    cases reply with
    | error failure => trivial
    | ok reply => rwa [Answered, adapt_congr kin.rules kin.lease] at h
  | _ => trivial

/-! ## What the world keeps -/

section Past
variable {event : Event} {past : List Event} {i : Nat}

/-- An event that goes through a handle has no reply of its own. -/
lemma reply?_of_handle? {handle : Handle} (through : event.handle? = some handle) : event.reply? = none := by
  cases event with
  | executed sql parameters reply given => cases through
  | _ => rfl

/-- An event without a reply adds none. -/
lemma replies_cons_of_none (none : event.reply? = none) : replies (event :: past) = replies past := by
  rw [replies, none, Option.toList_none, List.append_nil]

/-- An event without rows hands none over. -/
lemma handed_cons_of_nil (rows : event.rows = []) : handed i (event :: past) = handed i past := by
  rw [handed, rows, ite_self, List.append_nil]

/-- The rows of a statement depend on the replies alone. -/
lemma fetchable_congr {past' : List Event} (same : replies past' = replies past) :
    fetchable past' i = fetchable past i := by
  rw [fetchable, fetchable, same]

/-- Rows that are handed out are left no more. -/
lemma left_cons {count : Nat} (none : event.reply? = none)
    (rows : (if event.handle?.map (·.statement past) = some i then event.rows else []) =
      (left past i).take count) :
    left (event :: past) i = (left past i).drop count := by
  rw [left, fetchable_congr (replies_cons_of_none none), handed, rows, List.length_append, ← List.drop_drop,
    ← left, List.length_take]
  rcases Nat.le_total count (left past i).length with fewer | all
  · rw [Nat.min_eq_left fewer]
  · rw [Nat.min_eq_right all, List.drop_length, List.drop_of_length_le all]

end Past

/-- The scene after rows were fetched with a cursor. -/
def drawn (s : Scene σ) (cursor : Cursor) (count : Nat) : Scene σ :=
  let rows := s.world.results[cursor.number]?.getD []
  { s with world := { s.world with results := s.world.results.set cursor.number (rows.drop count) } }

section World
variable {s : Scene σ} {cursor : Cursor} {rows : List Row} (kept : s.world.results[cursor.number]? = some rows)
include kept

/-- So many rows are taken from the front. -/
lemma outcome_within_fetch (count : Nat) :
    outcome (within (cursor.fetch count)) s = (.ok (rows.take count), drawn s cursor count) := by
  simp [Cursor.fetch, Cursor.rest, drawn, kept, Except.map]

/-- One row is taken, if there is one left. -/
lemma outcome_within_fetchOne : outcome (within cursor.fetchOne) s = (.ok rows.head?, drawn s cursor 1) := by
  rw [outcome_fetchOne, kept, Option.getD_some, List.head?_take, if_neg Nat.one_ne_zero, drawn, kept,
    Option.getD_some]

/-- All rows that are left are taken. -/
lemma outcome_within_fetchAll :
    outcome (within cursor.fetchAll) s = (.ok rows, drawn s cursor rows.length) := by
  simp [Cursor.fetchAll, Cursor.fetch, Cursor.rest, drawn, kept, Except.map]

/-- The rows that are left are counted, and stay. -/
lemma outcome_within_remaining : outcome (within cursor.remaining) s = (.ok rows.length, s) := by
  simp [Cursor.remaining, Cursor.rest, kept, Except.map]

end World

/-- Whether the world and somebody who holds cursors are as the past tells. -/
structure Agrees (past : List Event) (held : List Cursor) (s : Scene σ) : Prop where
  last : s.connection.last = held.getLast?
  described : held.map (fun cursor => (cursor.columns, cursor.rowCount)) =
    (replies past).map fun reply => (reply.columns, reply.rowCount)
  /-- No two statements have their rows in one place. -/
  apart : (held.map (·.number)).Nodup
  kept : ∀ i cursor, held[i]? = some cursor → s.world.results[cursor.number]? = some (left past i)
  whole : ∀ i, handed i past ++ left past i = fetchable past i

namespace Agrees
variable {past : List Event} {held : List Cursor} {s s' : Scene σ} {event : Event} (agrees : Agrees past held s)
include agrees

/-- There are as many cursors as there were replies. -/
lemma length : held.length = (replies past).length := by
  have same := congrArg List.length agrees.described
  rwa [List.length_map, List.length_map] at same

/-- All agrees as long as the world keeps the rows and the connection its cursor. -/
lemma congr (results : s'.world.results = s.world.results) (last : s'.connection.last = s.connection.last) :
    Agrees past held s' where
  last := last.trans agrees.last
  described := agrees.described
  apart := agrees.apart
  kept i cursor there := results ▸ agrees.kept i cursor there
  whole := agrees.whole

/-- What neither replies nor hands out rows makes no difference. -/
lemma spared (none : event.reply? = none) (rows : event.rows = []) : Agrees (event :: past) held s := by
  have same : replies (event :: past) = replies past := replies_cons_of_none none
  have rest (i : Nat) : left (event :: past) i = left past i := by
    rw [left, left, fetchable_congr same, handed_cons_of_nil rows]
  refine ⟨agrees.last, same ▸ agrees.described, agrees.apart, fun i cursor there => ?_, fun i => ?_⟩
  · rw [rest]
    exact agrees.kept i cursor there
  · rw [rest, fetchable_congr same, handed_cons_of_nil rows]
    exact agrees.whole i

/-- What hands out rows hands out those that come next, of one statement alone. -/
lemma fetched (handle : Handle) {cursor : Cursor} {count : Nat} (through : event.handle? = some handle)
    (there : held[handle.statement past]? = some cursor)
    (rows : event.rows = (left past (handle.statement past)).take count) :
    Agrees (event :: past) held (drawn s cursor count) := by
  have none : event.reply? = none := reply?_of_handle? through
  have same : replies (event :: past) = replies past := replies_cons_of_none none
  have taken (i : Nat) : (if event.handle?.map (·.statement past) = some i then event.rows else []) =
      (left past i).take (if handle.statement past = i then count else 0) := by
    simp only [through, Option.map_some, Option.some_inj]
    split
    · next eq => rw [rows, eq]
    · rw [List.take_zero]
  have rest (i : Nat) := left_cons none (taken i)
  refine ⟨agrees.last, same ▸ agrees.described, agrees.apart, fun i other there' => ?_, fun i => ?_⟩
  · rw [rest]
    unfold drawn
    dsimp only
    rw [agrees.kept _ _ there, Option.getD_some]
    split
    · next eq =>
      subst eq
      obtain rfl : other = cursor := Option.some.inj (there'.symm.trans there)
      rw [List.getElem?_set_self (List.getElem?_eq_some_iff.1 (agrees.kept _ _ there)).1]
    · next ne =>
      rw [List.drop_zero, List.getElem?_set_ne, agrees.kept i other there']
      -- Two statements do not share a place.
      intro shared
      refine ne ((List.getElem?_inj ?_ agrees.apart).1 ?_)
      · rw [List.length_map]
        exact (List.getElem?_eq_some_iff.1 there).1
      · rw [List.getElem?_map, List.getElem?_map, there, there', Option.map_some, Option.map_some, shared]
  · rw [rest, fetchable_congr same, handed, taken, List.append_assoc, List.take_append_drop]
    exact agrees.whole i

/-- Of a statement that was not sent there are no rows. -/
lemma unknown {i : Nat} (le : held.length ≤ i) : fetchable past i = [] ∧ handed i past = [] := by
  have none : fetchable past i = [] := by
    rw [agrees.length] at le
    rw [fetchable, List.getElem?_eq_none le]
    rfl
  have whole := agrees.whole i
  rw [none, List.append_eq_nil_iff] at whole
  exact ⟨none, whole.1⟩

/-- A reply comes with a new cursor, with all its rows still to be fetched. -/
lemma executed (sql : String) (parameters : List Parameter) (reply : Reply) :
    let cursor : Cursor := ⟨s.world.results.length, reply.columns, reply.rowCount⟩
    Agrees (.executed sql parameters (.ok reply) (.ok cursor) :: past) (held ++ [cursor])
      (concluded s (.ok reply)) := by
  intro cursor
  let event : Event := .executed sql parameters (.ok reply) (.ok cursor)
  have same (i : Nat) : handed i (event :: past) = handed i past :=
    handed_cons_of_nil rfl
  have all : replies (event :: past) = replies past ++ [reply] := rfl
  have earlier {i : Nat} (lt : i < held.length) :
      fetchable (event :: past) i = fetchable past i := by
    rw [agrees.length] at lt
    rw [fetchable, fetchable, all, List.getElem?_append_left lt]
  have latest : fetchable (event :: past) held.length = reply.fetchable := by
    rw [fetchable, all, agrees.length, List.getElem?_concat_length]
    rfl
  have results : (concluded s (.ok reply)).world.results = s.world.results ++ [reply.fetchable] := rfl
  refine ⟨by rw [List.getLast?_concat]; rfl, ?_, ?_, fun i other there => ?_, fun i => ?_⟩
  · rw [all, List.map_append, List.map_append, agrees.described]
    rfl
  · rw [List.map_append, List.nodup_append]
    refine ⟨agrees.apart, by simp, fun n mem m single eq => ?_⟩
    obtain ⟨other, memo, rfl⟩ := List.mem_map.1 mem
    obtain ⟨i, there⟩ := List.getElem?_of_mem memo
    obtain rfl := List.mem_singleton.1 single
    have below := (List.getElem?_eq_some_iff.1 (agrees.kept i other there)).1
    rw [eq] at below
    exact Nat.lt_irrefl _ below
  · rw [results, left, same]
    rcases Nat.lt_trichotomy i held.length with lt | rfl | gt
    · rw [List.getElem?_append_left lt] at there
      have kept := agrees.kept i other there
      rw [List.getElem?_append_left (List.getElem?_eq_some_iff.1 kept).1, kept, earlier lt, left]
    · rw [List.getElem?_concat_length] at there
      obtain rfl : cursor = other := Option.some.inj there
      rw [latest, (agrees.unknown (Nat.le_refl _)).2, List.getElem?_concat_length]
      rfl
    · rw [List.getElem?_eq_none (by rw [List.length_append]; exact gt)] at there
      cases there
  · rw [left, same]
    rcases Nat.lt_trichotomy i held.length with lt | rfl | gt
    · rw [earlier lt]
      exact agrees.whole i
    · rw [latest, (agrees.unknown (Nat.le_refl _)).2]
      rfl
    · have none : fetchable (event :: past) i = [] := by
        rw [agrees.length] at gt
        rw [fetchable, all, List.getElem?_eq_none (by rw [List.length_append]; exact gt)]
        rfl
      rw [none, (agrees.unknown (Nat.le_of_lt gt)).2]
      rfl

/-- The connection has the cursor of the last statement that succeeded. -/
lemma last_eq : s.connection.last = held[Handle.connection.statement past]? := by
  rw [agrees.last, List.getLast?_eq_getElem?, agrees.length, Handle.statement]

/-- There is nothing left for somebody without the cursor. -/
lemma left_eq_nil {i : Nat} (none : held[i]? = none) : left past i = [] := by
  rw [left, (agrees.unknown (List.getElem?_eq_none_iff.1 none)).1, List.drop_nil]

end Agrees

/-! ## Calls -/

/-- Whether a call is answered by the server and goes as the past tells, and leaves all as the past tells with
this call. -/
def Proceeds [Server σ] (past : List Event) (call : Call) (s : Scene σ)
    (o : Except Failure (Event × List Cursor) × Scene σ) : Prop :=
  ∃ event held s', o = (.ok (event, held), s') ∧ event.call = call ∧ event.Answered σ s.connection ∧
    Told past event ∧ s.connection.Kin s'.connection ∧ Agrees (event :: past) held s'

namespace Agrees
variable {past : List Event} {held : List Cursor} {s : Scene σ} (agrees : Agrees past held s)
include agrees

omit agrees in
/-- What is asked of a cursor that is not there is answered with nothing. -/
lemma outcome_onCursor {α : Type} (i : Nat) (nothing : α) (ask : Cursor → Step σ α) :
    outcome (onCursor held i nothing ask) s = match held[i]? with
      | some cursor => outcome (ask cursor) s
      | none => (.ok nothing, s) := by
  rw [onCursor]
  cases held[i]? with
  | _ => rfl

/-- What is asked of the connection is asked of the cursor of the last statement. -/
lemma outcome_through {α : Type} (handle : Handle) {nothing : α} {ask : Cursor → Step σ α} {own : Step σ α}
    (last : outcome own s = match s.connection.last with
      | some cursor => outcome (ask cursor) s
      | none => (.ok nothing, s)) :
    outcome (through held nothing ask own handle) s = match held[handle.statement past]? with
      | some cursor => outcome (ask cursor) s
      | none => (.ok nothing, s) := by
  cases handle with
  | cursor i => exact outcome_onCursor i nothing ask
  | connection => rw [through, last, agrees.last_eq]

/-- One row is fetched as the past tells, and the scene agrees with it afterwards. -/
lemma fetchOne (handle : Handle) :
    ∃ row s', outcome (through held none (within ·.fetchOne) Connection.fetchOne handle) s = (.ok row, s') ∧
      Told past (.fetchedOne handle row) ∧ s'.connection = s.connection ∧
      Agrees (.fetchedOne handle row :: past) held s' := by
  have last : outcome Connection.fetchOne s = match s.connection.last with
      | some cursor => outcome (within cursor.fetchOne) s
      | none => (.ok none, s) := by
    rw [Connection.fetchOne, outcome_bind, outcome_get]
    dsimp only
    cases s.connection.last with
    | _ => rfl
  rw [agrees.outcome_through handle last]
  cases there : held[handle.statement past]? with
  | none =>
    refine ⟨none, s, rfl, ?_, rfl, agrees.spared rfl rfl⟩
    rw [Told, agrees.left_eq_nil there, List.head?_nil]
  | some cursor =>
    refine ⟨_, _, outcome_within_fetchOne (agrees.kept _ _ there), rfl, rfl,
      agrees.fetched handle rfl there ?_⟩
    cases left past (handle.statement past) with
    | _ => rfl

/-- So are several rows. -/
lemma fetchMany (i count : Nat) :
    ∃ rows s', outcome (onCursor held i [] fun cursor => within (cursor.fetch count)) s = (.ok rows, s') ∧
      Told past (.fetchedMany i count rows) ∧ s'.connection = s.connection ∧
      Agrees (.fetchedMany i count rows :: past) held s' := by
  rw [outcome_onCursor]
  cases there : held[i]? with
  | none =>
    refine ⟨[], s, rfl, ?_, rfl, agrees.spared rfl rfl⟩
    rw [Told, agrees.left_eq_nil there, List.take_nil]
  | some cursor =>
    exact ⟨_, _, outcome_within_fetch (agrees.kept _ _ there) count, rfl, rfl,
      agrees.fetched (.cursor i) rfl there rfl⟩

/-- So are all that are left. -/
lemma fetchAll (handle : Handle) :
    ∃ rows s', outcome (through held [] (within ·.fetchAll) Connection.fetchAll handle) s = (.ok rows, s') ∧
      Told past (.fetchedAll handle rows) ∧ s'.connection = s.connection ∧
      Agrees (.fetchedAll handle rows :: past) held s' := by
  have last : outcome Connection.fetchAll s = match s.connection.last with
      | some cursor => outcome (within cursor.fetchAll) s
      | none => (.ok [], s) := by
    rw [Connection.fetchAll, outcome_bind, outcome_get]
    dsimp only
    cases s.connection.last with
    | _ => rfl
  rw [agrees.outcome_through handle last]
  cases there : held[handle.statement past]? with
  | none => exact ⟨[], s, rfl, (agrees.left_eq_nil there).symm, rfl, agrees.spared rfl rfl⟩
  | some cursor =>
    exact ⟨_, _, outcome_within_fetchAll (agrees.kept _ _ there), rfl, rfl,
      agrees.fetched handle rfl there List.take_length.symm⟩

/-- So many rows are left as the past tells. -/
lemma remaining (i : Nat) :
    ∃ count, outcome (onCursor held i 0 (within ·.remaining)) s = (.ok count, s) ∧
      Told past (.remained i count) := by
  rw [outcome_onCursor]
  cases there : held[i]? with
  | none => exact ⟨0, rfl, by rw [Told, agrees.left_eq_nil there, List.length_nil]⟩
  | some cursor => exact ⟨_, outcome_within_remaining (agrees.kept _ _ there), rfl⟩

variable [Server σ]

/-- A call that is about no cursor proceeds as it should. -/
lemma aside (a : Aside) : Proceeds past (.aside a) s (outcome ((Call.aside a).perform held) s) := by
  have performed {α : Type} {step : Step σ α} (eq : a.perform = discard (attempt step))
      (spares : SparesCursors step) (kin : s.connection.Kin (outcome step s).2.connection) :
      Proceeds past (.aside a) s (outcome ((Call.aside a).perform held) s) := by
    refine ⟨.aside a, held, (outcome step s).2, ?_, rfl, trivial, trivial, kin,
      (agrees.congr (spares s).1 (spares s).2).spared rfl rfl⟩
    rw [Call.perform, eq]
    rfl
  cases a with
  | begin => exact performed rfl .begin (.begin s)
  | commit => exact performed rfl (.endTransaction _) (.endTransaction s _)
  | rollback => exact performed rfl (.endTransaction _) (.endTransaction s _)
  | tableExists name => exact performed rfl (.tableExists name) (.tableExists s name)

/-- So does a statement that is executed. -/
lemma execute (sql : String) (parameters : List Parameter) :
    Proceeds past (.execute sql parameters) s (outcome ((Call.execute sql parameters).perform held) s) := by
  obtain ⟨results, last⟩ := SparesCursors.submit sql parameters s
  have kin := Kin.execute s sql parameters
  have performed : outcome ((Call.execute sql parameters).perform held) s =
      (.ok (.executed sql parameters (outcome (submit sql parameters) s).1
        (outcome (Connection.execute sql parameters) s).1,
        held ++ (outcome (Connection.execute sql parameters) s).1.toOption.toList),
      (outcome (Connection.execute sql parameters) s).2) := rfl
  rw [outcome_execute_submit] at kin
  rw [performed, outcome_execute_submit]
  rcases submitted : outcome (submit sql parameters) s with ⟨failure | reply, s'⟩
  · rw [submitted] at results last kin
    refine ⟨.executed sql parameters (.error failure) (.error failure), held, s', ?_, rfl, trivial, rfl, kin,
      (agrees.congr results last).spared rfl rfl⟩
    dsimp only [Except.toOption, Option.toList]
    rw [List.append_nil]
  · have answered := exists_of_submit submitted
    rw [submitted] at results last kin
    exact ⟨_, _, _, rfl, rfl, answered, rfl, kin, (agrees.congr results last).executed sql parameters reply⟩

/-- Every call goes as the past tells. -/
theorem perform (call : Call) : Proceeds past call s (outcome (call.perform held) s) := by
  have same {s' : Scene σ} (eq : s'.connection = s.connection) : s.connection.Kin s'.connection := by
    rw [eq]
    exact Kin.refl _
  cases call with
  | execute sql parameters => exact agrees.execute sql parameters
  | fetchOne handle =>
    obtain ⟨row, s', eq, told, connection, after⟩ := agrees.fetchOne handle
    refine ⟨.fetchedOne handle row, held, s', ?_, rfl, trivial, told, same connection, after⟩
    rw [Call.perform, outcome_bind, eq]
    rfl
  | fetchMany i count =>
    obtain ⟨rows, s', eq, told, connection, after⟩ := agrees.fetchMany i count
    refine ⟨.fetchedMany i count rows, held, s', ?_, rfl, trivial, told, same connection, after⟩
    rw [Call.perform, outcome_bind, eq]
    rfl
  | fetchAll handle =>
    obtain ⟨rows, s', eq, told, connection, after⟩ := agrees.fetchAll handle
    refine ⟨.fetchedAll handle rows, held, s', ?_, rfl, trivial, told, same connection, after⟩
    rw [Call.perform, outcome_bind, eq]
    rfl
  | remaining i =>
    obtain ⟨count, eq, told⟩ := agrees.remaining i
    refine ⟨.remained i count, held, s, ?_, rfl, trivial, told, Kin.refl _, agrees.spared rfl rfl⟩
    rw [Call.perform, outcome_bind, eq]
    rfl
  | aside a => exact agrees.aside a

/-- So does a course of calls. -/
theorem course (told : AllTold past) (calls : List Call) :
    ∃ new held' s', outcome (course calls (past, held)) s = (.ok (new ++ past, held'), s') ∧
      new.map Event.call = calls.reverse ∧ (∀ event ∈ new, event.Answered σ s.connection) ∧
      AllTold (new ++ past) ∧ Agrees (new ++ past) held' s' := by
  induction calls generalizing past held s with
  | nil => exact ⟨[], held, s, rfl, rfl, by simp, told, agrees⟩
  | cons call calls ih =>
    obtain ⟨event, held', s', eq, called, answered, told', kin, after⟩ := agrees.perform call
    obtain ⟨new, held'', s'', ran, calls', answered', final⟩ := ih after ⟨told', told⟩
    refine ⟨new ++ [event], held'', s'', ?_, ?_, ?_, ?_⟩
    · rw [Fetching.course, outcome_bind, eq]
      rw [List.append_assoc]
      exact ran
    · rw [List.map_append, calls', List.reverse_cons, List.map_singleton, called]
    · intro e mem
      rcases List.mem_append.1 mem with mem | mem
      · exact (answered' e mem).congr kin
      · rw [List.mem_singleton.1 mem]
        exact answered
    · rw [List.append_assoc]
      exact final

end Agrees

/-- Whatever is asked of a new connection and of the cursors that it gave, in whatever order: there is an event for
each call; every reply is the server's to the statement that was asked for; each event is as those before it tell;
what was handed out of a statement's rows, through whatever handle, and what is left of them are those rows, in order;
cursors say what the replies said of columns and rows; and the connection has the cursor of the last statement that
succeeded. -/
theorem course_told [Server σ] (s : Scene σ) (new : s.connection.last = none) (calls : List Call) :
    ∃ h held s', outcome (course calls ([], [])) s = (.ok (h, held), s') ∧ h.map Event.call = calls.reverse ∧
      (∀ event ∈ h, event.Answered σ s.connection) ∧ AllTold h ∧
      (∀ i, handed i h ++ left h i = fetchable h i) ∧
      held.map (fun cursor => (cursor.columns, cursor.rowCount)) =
        (replies h).map (fun reply => (reply.columns, reply.rowCount)) ∧
      s'.connection.last = held.getLast? := by
  have start : Agrees [] [] s := ⟨new, rfl, List.nodup_nil, fun _ _ there => (nomatch there), fun _ => rfl⟩
  obtain ⟨h, held, s', eq, called, answered, told, agrees⟩ := start.course trivial calls
  rw [List.append_nil] at eq told agrees
  exact ⟨h, held, s', eq, called, answered, told, agrees.whole, agrees.described, agrees.last⟩

/-- A statement with three rows, and one at which the connection breaks off: what is fetched then is the second row
of the first one. -/
theorem course_told_broken :
    let column : Column := ⟨"name", "text"⟩
    let row (c : Char) : Row := [some [c.toNat.toUInt8]]
    let script : List Cue := [
      { pattern := { equals := some "SELECT name" }, turn := .reply ⟨[column], ['a', 'b', 'c'].map row, 0⟩ },
      { pattern := { equals := some "SELECT" }, turn := .close }]
    let s : Scene ScriptedServer := {
      connection := { address := ⟨"localhost", 5432, "trees", "ada", none, [], .url⟩, channel := .direct ⟨1⟩ }
      world := { server := { host := "localhost", port := 5432, script, links := [{}] } } }
    let calls : List Call := [.execute "SELECT name" [], .fetchMany 0 1, .execute "SELECT" [],
      .fetchOne .connection]
    s.connection.last = none ∧
    ∃ h held s', outcome (course calls ([], [])) s = (.ok (h, held), s') ∧ AllTold h ∧
      handed 0 h = [row 'a', row 'b'] ∧ left h 0 = [row 'c'] := by
  intro column row script s calls
  obtain ⟨h, held, s', eq, -, -, told, -⟩ := course_told s rfl calls
  refine ⟨rfl, h, held, s', eq, told, ?_⟩
  have key : (outcome (course calls ([], [])) s).1.toOption.map (fun (h, _) => (handed 0 h, left h 0)) =
      some ([row 'a', row 'b'], [row 'c']) := by
    decide +kernel
  rw [eq] at key
  exact Prod.mk.inj (Option.some.inj key)

end Fetching
end Tenancy
