import Tenancy.Proofs.Schema.Asking
import Tenancy.Proofs.Schema.Composition

/-!
# A course of upkeep

What can happen is shown by letting it happen. Where the statements of upkeep can be run and leave the data
alone (`Idles`) and the locks are free, the tables of a schema can be created from beginning to end
(`goes_createAll`) or upgraded (`goes_upgrade`), and a schema be brought up to date as far as to its first
lock or to its second (`asked_prefixLock`, `asked_commonLock`). `Surroundings` is what a session finds around
it, and `Stage` how far it has come in its transaction. All that is so of a store that is `obliging`.
-/

namespace Tenancy.Schema
open Connection Engine Interleaving

variable {S : Store} {K : Type} {α β : Type}

/-! ## Surroundings and stages -/

/-- What a session finds around it: which locks are free, which statements need not wait for another session,
and which data are kept. -/
structure Surroundings (S : Store) (K : Type) where
  hash : String → K
  free : K → Prop
  clear : String → List Parameter → Prop
  kept : S.Kept

/-- What a session of a system finds around it. -/
def Surroundings.around {ι Call : Type} (hash : String → K) (s : System ι S K Call) (i : ι) :
    Surroundings S K :=
  ⟨hash, s.Free i, s.Clear i, s.kept⟩

/-- Whether a procedure can come to be at another one in such surroundings. -/
abbrev Surroundings.Arrives (m : Surroundings S K) (p : Talk α) (s : Interleaving.Session S K) (q : Talk α)
    (t : Interleaving.Session S K) : Prop :=
  Interleaving.Arrives m.hash m.free m.clear m.kept p s q t

/-- Whether statements without parameters can be run by a transaction that has done so much, with nothing
done to the data. -/
def Idles (m : Surroundings S K) (work : S.Work) : Prop :=
  ∀ sql, m.clear sql [] ∧ S.executes m.kept work sql [] {} work

/-- What a transaction has done, with its locks and savepoints. -/
structure Stage (S : Store) (K : Type) where
  work : S.Work
  locks : Set K
  savepoints : List (Savepoint S K)

namespace Stage

/-- A transaction that was just opened. -/
def first : Stage S K := ⟨S.blank, ∅, []⟩

/-- A transaction that has taken one more lock. -/
def locked (g : Stage S K) (k : K) : Stage S K := { g with locks := insert k g.locks }

/-- A transaction that has set a savepoint. -/
def marked (g : Stage S K) (name : String) : Stage S K :=
  { g with savepoints := ⟨name, g.work, g.locks⟩ :: g.savepoints }

end Stage

/-- A session in a transaction that has come so far. -/
structure At (g : Stage S K) (s : Interleaving.Session S K) : Prop where
  opened : s.closed = false
  inside : s.inTransaction = true
  work : s.work = g.work
  locks : s.locks = g.locks
  savepoints : s.savepoints = g.savepoints

/-- A session in a transaction is not outside of one. -/
lemma At.elim {g : Stage S K} {s : Interleaving.Session S K} {P : Prop} (here : At g s)
    (outside : s.inTransaction = false) : P := by
  cases here.inside.symm.trans outside

/-! ## What can succeed -/

/-- Whether a procedure can succeed, and how far the transaction has come then. -/
def Goes (m : Surroundings S K) (g : Stage S K) (p : Talk α) (a : α) (g' : Stage S K) : Prop :=
  ∀ s, At g s → ∃ t, m.Arrives p s (.done (.ok a)) t ∧ At g' t

namespace Goes
variable {m : Surroundings S K} {g g' g'' : Stage S K} {p : Talk α} {a : α}

/-- Nothing can always be done. -/
lemma pure (a : α) : Goes m g (Pure.pure a) a g := fun s here => ⟨s, .refl _ s, here⟩

/-- One procedure can succeed after the other. -/
lemma bind {f : α → Talk β} {b : β} (first : Goes m g p a g') (rest : Goes m g' (f a) b g'') :
    Goes m g (p >>= f) b g'' := by
  intro s here
  obtain ⟨t, arrives, there⟩ := first s here
  obtain ⟨u, arrives', there'⟩ := rest t there
  exact ⟨u, arrives.bind arrives', there'⟩

/-- What can succeed can do so as an attempt. -/
lemma attempt (h : Goes m g p a g') : Goes m g p.attempt (.ok a) g' := by
  intro s here
  obtain ⟨t, arrives, there⟩ := h s here
  exact ⟨t, arrives.attempt, there⟩

/-- A statement without parameters can be run, if there is something that can come of it. -/
lemma perform {sql : String} (runs : ∀ s, At g s →
      ∃ t, Runs m.hash m.free m.clear m.kept s sql [] {} m.kept t ∧ At g' t) :
    Goes m g (Talk.perform sql) () g' := by
  intro s here
  obtain ⟨t, ran, there⟩ := runs s here
  have answered : m.Arrives (Talk.execute sql []) s (.done (.ok (t.cursor {}))) (t.received {}) :=
    .request (.execute here.opened (.inl rfl) ran) fun _ => there.inside
  exact ⟨t.received {}, answered.bind (.refl _ _), there.opened, there.inside, there.work, there.locks,
    there.savepoints⟩

/-- A statement about data can be run where such statements do nothing. -/
lemma work {sql : String} (idles : Idles m g.work) (reads : Reading.ofSql sql = .work)
    (other : sql ≠ lockStatement) : Goes m g (Talk.perform sql) () g := by
  refine perform fun s here => ?_
  obtain ⟨clear, executes⟩ := idles sql
  rw [← here.work] at executes
  exact ⟨_, .work here.inside reads other clear executes, here⟩

/-- A savepoint can be set. -/
lemma savepoint {sql name : String} (reads : Reading.ofSql sql = .savepoint name) :
    Goes m g (Talk.perform sql) () (g.marked name) := by
  refine perform fun s here => ⟨_, .savepoint here.inside reads [] {}, ?_⟩
  refine ⟨here.opened, here.inside, here.work, here.locks, ?_⟩
  change _ :: s.savepoints = _
  rw [here.savepoints, here.work, here.locks]
  rfl

/-- The last savepoint can be let go of. -/
lemma release {sql : String} {x : Savepoint S K} (reads : Reading.ofSql sql = .release x.name) :
    Goes m { g with savepoints := x :: g.savepoints } (Talk.perform sql) () g := by
  refine perform fun s here => ?_
  have reach : s.savepoints.dropWhile (·.name ≠ x.name) = x :: g.savepoints := by
    rw [here.savepoints, List.dropWhile_cons_of_neg (by simp)]
  exact ⟨_, .release here.inside reads reach [] {}, here.opened, here.inside, here.work, here.locks, rfl⟩

/-- A lock that is free is granted. -/
lemma lock {key : String} (granted : m.free (m.hash key)) :
    Goes m g (Site.lock key) () (g.locked (m.hash key)) := by
  intro s here
  have ran : Runs m.hash m.free m.clear m.kept s lockStatement [.text key] {} m.kept
      { s with locks := if s.inTransaction then insert (m.hash key) s.locks else s.locks } :=
    .lock granted {}
  refine ⟨_, .bind (.request (.execute here.opened (.inl rfl) ran) fun _ => here.inside) (.refl _ _), ?_⟩
  refine ⟨here.opened, here.inside, here.work, ?_, here.savepoints⟩
  change (if s.inTransaction then insert (m.hash key) s.locks else s.locks) = _
  rw [here.inside, if_pos rfl, here.locks]
  rfl

/-- It can be told whether there is a table. -/
lemma tableExists {name : String} {found : Bool} (finds : S.finds m.kept g.work name found) :
    Goes m g (Talk.tableExists name) found g := by
  intro s here
  refine ⟨s, .request (.tableExists here.opened ?_) fun inside => inside, here⟩
  rw [here.inside, if_pos rfl, here.work]
  exact finds

end Goes

/-! ## What can be asked for -/

/-- Whether a procedure can come to a request, and how far the transaction has come then. -/
def Asked (m : Surroundings S K) (g : Stage S K) (p : Talk α) (r : Request) (g' : Stage S K) : Prop :=
  ∀ s, At g s → ∃ next t, m.Arrives p s (.ask r next) t ∧ At g' t

namespace Asked
variable {m : Surroundings S K} {g g' g'' : Stage S K} {p : Talk α} {a : α} {r : Request}

/-- A request comes to itself. -/
lemma request : Asked m g (Procedure.request (I := talking) r) r g := fun s here => ⟨_, s, .refl _ s, here⟩

/-- What a procedure comes to does not depend on what follows. -/
lemma first {f : α → Talk β} (h : Asked m g p r g') : Asked m g (p >>= f) r g' := by
  intro s here
  obtain ⟨next, t, arrives, there⟩ := h s here
  exact ⟨_, t, arrives.stops, there⟩

/-- After a procedure that can succeed, the next one comes to its requests. -/
lemma later {f : α → Talk β} (first : Goes m g p a g') (rest : Asked m g' (f a) r g'') :
    Asked m g (p >>= f) r g'' := by
  intro s here
  obtain ⟨t, arrives, there⟩ := first s here
  obtain ⟨next, u, arrives', there'⟩ := rest t there
  exact ⟨next, u, arrives.bind arrives', there'⟩

/-- An attempt comes to the same requests. -/
lemma attempt (h : Asked m g p r g') : Asked m g p.attempt r g' := by
  intro s here
  obtain ⟨next, t, arrives, there⟩ := h s here
  exact ⟨_, t, arrives.attempt, there⟩

end Asked

/-! ## Upkeep -/

section Upkeep
variable {m : Surroundings S K} {g : Stage S K} {site : Site}

/-- All extensions can be enabled. -/
lemma goes_tryExtensions (idles : Idles m g.work) {extensions : List String}
    (all : ∀ x ∈ extensions, x ∈ optionalExtensions) :
    Goes m g (Site.tryExtensions extensions) extensions g := by
  have creates : ∀ x ∈ optionalExtensions,
      Reading.ofSql s!"CREATE EXTENSION IF NOT EXISTS {x}" = .work ∧
        s!"CREATE EXTENSION IF NOT EXISTS {x}" ≠ lockStatement := by
    decide +kernel
  induction extensions with
  | nil => exact .pure []
  | cons x extensions ih =>
    obtain ⟨head, tail⟩ := List.forall_mem_cons.1 all
    obtain ⟨reads, other⟩ := creates x head
    have enables : Goes m (g.marked extensionSavepoint) (Talk.perform s!"CREATE EXTENSION IF NOT EXISTS {x}") ()
        (g.marked extensionSavepoint) :=
      Goes.work (g := g.marked extensionSavepoint) idles reads other
    refine (Goes.savepoint rfl).bind (enables.attempt.bind ?_)
    exact (Goes.release rfl).bind ((ih tail).bind (.pure _))

/-- All statements that build something can be run, one after the other. -/
lemma goes_performAll (idles : Idles m g.work) (site : Site) {sqls : List String}
    (all : ∀ sql ∈ sqls, site.Construction sql) : Goes m g (Site.performAll sqls) () g := by
  have other : ∀ v ∈ buildingVerbs, ¬ v.toList ++ [' '] <+: lockStatement.toList := by decide
  induction sqls with
  | nil => exact .pure ()
  | cons sql sqls ih =>
    obtain ⟨head, tail⟩ := List.forall_mem_cons.1 all
    obtain ⟨v, mem, rest, eq⟩ := head.startsWith
    refine Goes.bind (.work idles ?_ ?_) (ih tail)
    · rw [List.append_assoc] at eq
      have verbs : ∀ v ∈ buildingVerbs, v ∈ Sql.verbs := by decide
      exact ofSql_of_verb (verbs v mem) eq.symm
    · rintro rfl
      exact other v mem ⟨rest, eq⟩

/-- Tables can be created one after the other. -/
lemma goes_createEach (idles : Idles m g.work) (extensions : List String) {ts : List Table}
    (all : ∀ t ∈ ts, t ∈ Inventory.tables) :
    Goes m g (Site.createEach (site.blueprint extensions) ts) () g := by
  induction ts with
  | nil => exact .pure ()
  | cons t ts ih =>
    obtain ⟨head, tail⟩ := List.forall_mem_cons.1 all
    obtain ⟨ds, describes⟩ := Inventory.exists_definitions head (site.blueprint extensions)
    rw [Site.createEach, describes]
    change Goes m g (Site.performAll (ds.map (·.sql)) >>= fun _ =>
      Site.createEach (site.blueprint extensions) ts) () g
    refine (goes_performAll idles site fun sql mem => ?_).bind (ih tail)
    obtain ⟨d, memd, rfl⟩ := List.mem_map.1 mem
    exact .definition head describes memd

/-- All tables can be created. -/
lemma goes_createTables (idles : Idles m g.work) : Goes m g site.createTables () g :=
  (goes_tryExtensions idles fun _ mem => mem).bind (goes_createEach idles _ fun _ mem => mem)

/-- All tables can be upgraded. -/
lemma goes_upgrade (idles : Idles m g.work) : Goes m g site.upgrade () g := by
  refine (goes_createTables idles).bind (goes_performAll idles site fun sql mem => ?_)
  obtain ⟨t, memt, fills⟩ := List.mem_filterMap.1 mem
  exact .backfill memt fills

/-- In a transaction a scope is a savepoint. -/
lemma goes_enter : Goes m g Scope.enter .savepoint (g.marked Scope.savepointName) := by
  intro s here
  have asked : m.Arrives Talk.inTransaction s (.done (.ok true)) s := by
    refine .request ?_ fun inside => inside
    have answers : Answers m.hash m.free m.clear m.kept s .inTransaction (.ok s.inTransaction) m.kept s :=
      .inTransaction
    rw [here.inside] at answers
    exact answers
  have opens : Goes m g (Talk.perform s!"SAVEPOINT {Scope.savepointName}" >>= fun _ =>
      Pure.pure Scope.savepoint) .savepoint (g.marked Scope.savepointName) :=
    (Goes.savepoint rfl).bind (.pure _)
  obtain ⟨t, arrives, there⟩ := opens s here
  exact ⟨t, asked.bind arrives, there⟩

/-- Outside of one it is a transaction of its own. -/
lemma arrives_enter (m : Surroundings S K) {s : Interleaving.Session S K} (opened : s.closed = false)
    (outside : s.inTransaction = false) :
    ∃ t, m.Arrives Scope.enter s (.done (.ok .transaction)) t ∧ At .first t := by
  have asked : m.Arrives Talk.inTransaction s (.done (.ok false)) s := by
    refine .request ?_ fun inside => inside
    have answers : Answers m.hash m.free m.clear m.kept s .inTransaction (.ok s.inTransaction) m.kept s :=
      .inTransaction
    rw [outside] at answers
    exact answers
  have begun : m.Arrives Talk.begin s (.done (.ok ())) s.begun :=
    .request (.begin opened outside) fun _ => rfl
  exact ⟨s.begun, asked.bind (begun.bind (.refl _ _)), opened, rfl, rfl, rfl, rfl⟩

/-- In a transaction all tables can be created, if the common lock is free. It is held then. -/
theorem goes_createAll (idles : Idles m g.work) (granted : m.free (m.hash Site.commonLock)) :
    Goes m g site.createAll () (g.locked (m.hash Site.commonLock)) := by
  have work : Goes m (g.marked Scope.savepointName)
      (Site.lock Site.commonLock >>= fun _ => site.createTables) ()
      ((g.marked Scope.savepointName).locked (m.hash Site.commonLock)) :=
    (Goes.lock granted).bind (goes_createTables idles)
  have closes : Goes m ((g.marked Scope.savepointName).locked (m.hash Site.commonLock))
      (Scope.savepoint.keep >>= fun _ => Pure.pure ()) () (g.locked (m.hash Site.commonLock)) :=
    Goes.bind (Goes.release (g := g.locked (m.hash Site.commonLock)) rfl) (.pure ())
  exact goes_enter.bind (work.attempt.bind closes)

/-- A schema can be brought up to date as far as to the request for the lock of its prefix. -/
theorem asked_prefixLock :
    Asked m g site.ensure (lockRequest site.prefixLock) (g.marked Scope.savepointName) :=
  .later goes_enter (.first (.attempt (.first (.first .request))))

/-- If that lock is free, it can be brought as far as to the request for the common one. -/
theorem asked_commonLock (granted : m.free (m.hash site.prefixLock))
    (missing : S.finds m.kept g.work settingsTable false) :
    Asked m g site.ensure (lockRequest Site.commonLock)
      ((g.marked Scope.savepointName).locked (m.hash site.prefixLock)) := by
  have creates : Asked m ((g.marked Scope.savepointName).locked (m.hash site.prefixLock)) site.bringUpToDate
      (lockRequest Site.commonLock) ((g.marked Scope.savepointName).locked (m.hash site.prefixLock)) :=
    .later (Goes.tableExists missing) (.first (.first .request))
  exact .later goes_enter (.first (.attempt (.later (Goes.lock granted) (.first creates))))

end Upkeep

/-! ## One session of a system -/

section Moves
variable {ι : Type} {Call : Type} {hash : String → K} {does : ι → Call → Talk Unit}
  {may : System ι S K Call → ι → Call → Prop} {s s' : System ι S K Call} {i : ι} {call : Call}
  {g : Stage S K}

/-- Whoever asks for a lock that another session holds waits for it. -/
lemma waits_of_held {j : ι} (other : i ≠ j) {k : String} {next : Except Failure Cursor → Talk Unit}
    (asks : s.calls i = some (call, .ask (lockRequest k) next)) (held : At g (s.sessions j))
    (mem : hash k ∈ g.locks) : s.Waits hash i j :=
  ⟨other, call, k, next, asks, held.locks ▸ mem⟩

variable [DecidableEq ι]

/-- A call that can succeed comes to its end. -/
lemma exists_moves_finish (idle : s.calls i = none) (allowed : may s i call)
    (outside : (s.sessions i).inTransaction = false → s.past i = [])
    (goes : ∃ t, (Surroundings.around hash s i).Arrives (does i call) (s.sessions i) (.done (.ok ())) t ∧
      At g t) :
    ∃ s', Moves hash does may s s' i ∧ At g (s'.sessions i) ∧ s'.calls i = none ∧
      s'.past i = call :: s.past i := by
  obtain ⟨t, arrives, there⟩ := goes
  have moves : Moves hash does may s _ i := arrives.moves_call idle allowed outside
  have final := s.put_sessions_self i (some (call, .done (.ok ()))) t
  obtain ⟨s₁, moves₁, session, calls, past⟩ := moves.finish (Function.update_self i _ _)
  rw [final] at session past
  refine ⟨s₁, moves₁, session ▸ there, calls, past.trans ?_⟩
  rw [Session.remaining, there.inside, if_pos rfl]
  rfl

/-- A call can be made and can go on as far as a procedure can come. -/
lemma exists_moves_call {q : Talk Unit} (idle : s.calls i = none) (allowed : may s i call)
    (outside : (s.sessions i).inTransaction = false → s.past i = [])
    (arrives : ∃ t, (Surroundings.around hash s i).Arrives (does i call) (s.sessions i) q t ∧ At g t) :
    ∃ s', Moves hash does may s s' i ∧ At g (s'.sessions i) ∧ s'.calls i = some (call, q) ∧
      s'.past i = s.past i := by
  obtain ⟨t, arrives, there⟩ := arrives
  have final := s.put_sessions_self i (some (call, q)) t
  exact ⟨_, arrives.moves_call idle allowed outside, final.symm ▸ there, Function.update_self i _ _, rfl⟩

/-- A call that was made goes on to a request that it can come to. -/
lemma exists_moves_on {p : Talk Unit} {r : Request} {g' : Stage S K} (asks : s.calls i = some (call, p))
    (here : At g (s.sessions i)) (asked : Asked (.around hash s i) g p r g') :
    ∃ s', Moves hash does may s s' i ∧ At g' (s'.sessions i) ∧ ∃ next, s'.calls i = some (call, .ask r next) := by
  obtain ⟨next, t, arrives, there⟩ := asked _ here
  have final := s.put_sessions_self i (some (call, .ask r next)) t
  exact ⟨_, arrives.moves asks here.elim, final.symm ▸ there, next, Function.update_self i _ _⟩

/-- A call that can come to a request stops there. -/
lemma exists_moves_ask {r : Request} (idle : s.calls i = none) (allowed : may s i call)
    (outside : (s.sessions i).inTransaction = false → s.past i = [])
    (asked : ∃ next t, (Surroundings.around hash s i).Arrives (does i call) (s.sessions i) (.ask r next) t ∧
      At g t) :
    ∃ s', Moves hash does may s s' i ∧ At g (s'.sessions i) ∧
      (∃ next, s'.calls i = some (call, .ask r next)) ∧ s'.past i = s.past i := by
  obtain ⟨next, arrives⟩ := asked
  obtain ⟨s', moves, there, calls, past⟩ := exists_moves_call idle allowed outside arrives
  exact ⟨s', moves, there, ⟨next, calls⟩, past⟩

/-- A transaction can be opened in a session that is new. -/
lemma exists_moves_begin (fresh : s.sessions i = {}) (idle : s.calls i = none) (past : s.past i = [])
    (allowed : may s i call) (begins : does i call = Talk.begin) :
    ∃ s', Moves hash does may s s' i ∧ At .first (s'.sessions i) ∧ s'.calls i = none ∧ s'.past i = [call] := by
  rw [← past]
  refine exists_moves_finish idle allowed (fun _ => past) ?_
  rw [fresh, begins]
  exact ⟨_, .request (.begin rfl rfl) fun _ => rfl, rfl, rfl, rfl, rfl, rfl⟩

end Moves

/-! ## A store that keeps nothing -/

/-- A store that runs every statement and keeps nothing. -/
def obliging : Store where
  Kept := Unit
  Work := Unit
  blank := ()
  executes _ _ _ _ _ _ := True
  finds _ _ _ _ := True
  hinders _ _ _ := False
  publish _ _ := ()

/-- In such a store all statements can be run, by every session. -/
lemma idles_obliging {ι Call : Type} (hash : String → K) (s : System ι obliging K Call) (i : ι)
    (work : obliging.Work) : Idles (.around hash s i) work :=
  fun _ => ⟨fun _ _ hinders => hinders, trivial⟩

end Tenancy.Schema
