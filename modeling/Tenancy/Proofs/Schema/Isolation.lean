import Tenancy.Proofs.Schema.Savepoints
import Tenancy.Proofs.Schema.Statements
import Tenancy.Proofs.Schema.Tables
import Tenancy.Proofs.Schema.Transaction

/-!
# Tenants are kept apart

The upkeep of one tenant's schema leaves the tables of all other tenants alone, and those of a schema
without a prefix. What it sends is `Confined`: of the tables that tenants own it mentions the tenant's
alone, and about the list of tables it asks for one of them. So the data agree outside of the tenant's
tables, statement by statement, and `upkeep_isolated` is what this says of whole runs.
-/

namespace Tenancy

/-- Whether of the tables that tenants own a statement mentions those of one tenant alone. -/
def Schema.Spares (p : TablePrefix) (sql : String) : Prop :=
  ∀ q, ∀ n ∈ Ownership.standard.own, Sql.Mentions sql.toList (tableName q n).toList → q = some p

namespace Engine.Tables
open Schema
variable {e : Engine} (tables : e.Tables) {p : TablePrefix} {d₀ d : e.Data}

/-- Whether the tables of every tenant but one, and those of a schema without a prefix, are the same. -/
def Agree (p : TablePrefix) (d₀ d : e.Data) : Prop :=
  ∀ q, q ≠ some p → ∀ n ∈ Ownership.standard.own,
    tables.contents d (tableName q n) = tables.contents d₀ (tableName q n)

variable {tables}

/-- The same data agree. -/
lemma Agree.refl (p : TablePrefix) (d : e.Data) : tables.Agree p d d := fun _ _ _ _ => rfl

/-- A statement of the upkeep that spares the tables of other tenants leaves them alone. -/
lemma Agree.effect (h : tables.Agree p d₀ d) {site : Site} {c : Connection} (serves : Serves c p)
    (own : site.tablePrefix = some p) {sql : String} (sends : site.Sends c sql) (spares : Spares p sql)
    (ps : List Parameter) : tables.Agree p d₀ (e.effect sql ps d).2 := by
  intro q other n mem
  rw [tables.frame serves own sends ps d q n mem fun mentions => other (spares q n mem mentions)]
  exact h q other n mem

end Engine.Tables

namespace Schema
open Connection Engine Sql
variable {e : Engine} {tables : e.Tables} {p : TablePrefix}

/-! ## What is sent -/

/-- What the upkeep of a tenant's schema may send: statements about data that mention no table of other
tenants, the question whether the tenant has a table of settings, and what is no statement about data. -/
def Confined (p : TablePrefix) : Received → Prop
  | .prepared sql (some ps) =>
    Spares p sql ∧
      (Mentions sql.toList tableList → sql = existsQuery ∧ ps = [.text (p.apply settingsTable)])
  | .simple sql => Reading.ofSql sql ≠ .work
  | _ => False

/-- What mentions nothing but what is proper spares the tables of other tenants. -/
lemma confined_of_proper {sql : String} (h : ∀ name, Mentions sql.toList name → Proper p name)
    (ps : List Parameter) : Confined p (.prepared sql (some ps)) := by
  refine ⟨fun q n own mentions => (h _ mentions).own.2 q n own rfl, fun mentions => ?_⟩
  exact absurd rfl (h _ mentions).own.1

/-- The question whether there is a table mentions neutral names, and the list of tables. -/
lemma spares_existsQuery : Spares p existsQuery := by
  have check : isPlain existsQuery.toList ∧ existsQuery.toList.all Text.isAscii ∧
      ∀ w ∈ Text.words existsQuery.toList,
        w.map Char.toLower = tableList ∨ Neutral (w.map Char.toLower) := by
    decide +kernel
  have other : ∀ n ∈ ownTables, n ≠ tableList ∧ n ∉ tailsAfter '_' tableList := by decide +kernel
  obtain ⟨plain, ascii, known⟩ := check
  intro q n own mentions
  obtain ⟨w, mem, eq⟩ := mentions_of_isPlain plain mentions
  have ascii' : w.all Text.isAscii := List.all_eq_true.2 fun c memc =>
    List.all_eq_true.1 ascii c (Text.mem_of_mem_words mem memc)
  rw [Text.lower_of_isAscii ascii'] at eq
  rcases known w mem with list | neutral
  · obtain ⟨differs, tail⟩ := other _ (mem_ownTables.1 own)
    rw [list] at eq
    cases q with
    | none => exact absurd eq differs
    | some q =>
      obtain ⟨cs, hcs⟩ := q.eq_concat
      rw [tableName, q.toList_apply, hcs, List.append_assoc] at eq
      exact absurd (eq ▸ mem_tailsAfter '_' cs n.toList) tail
  · exact (Proper.own (.inl neutral)).2 q n own eq.symm

/-- The tenant's table of settings is what the question is about. -/
lemma table_settingsTable {c : Connection} (serves : Serves c p) :
    c.table settingsTable = p.apply settingsTable := by
  have folded : String.ofList (foldName settingsTable.toList) = settingsTable := by decide +kernel
  have own : settingsTable ∈ Ownership.standard.own := by decide +kernel
  rw [Connection.table, serves.lease]
  dsimp only
  rw [foldName_quoteName, String.ofList_toList, Lease.table]
  dsimp only
  rw [folded, if_pos own]

/-- The statements about savepoints name no table of a tenant. -/
lemma proper_savepointStatements {sql : String} (mem : sql ∈ savepointStatements) {name : List Char}
    (mentions : Mentions sql.toList name) : Proper p name := by
  have check : ∀ sql ∈ savepointStatements, sql.toList.all isBare ∧ sql.toList.all Text.isAscii ∧
      ∀ w ∈ Text.words sql.toList, Neutral (w.map Char.toLower) := by
    decide +kernel
  obtain ⟨bare, ascii, known⟩ := check sql mem
  obtain ⟨w, memw, rfl⟩ := mentions_of_isPlain (isPlain_of_isBare bare) mentions
  have ascii' : w.all Text.isAscii := List.all_eq_true.2 fun c memc =>
    List.all_eq_true.1 ascii c (Text.mem_of_mem_words memw memc)
  rw [Text.lower_of_isAscii ascii']
  exact .inl (known w memw)

/-- A connection that serves a tenant sends them as they are. -/
lemma Serves.exact {c : Connection} (serves : Serves c p) :
    ∀ sql ∈ savepointStatements, c.adapt sql = sql := by
  refine adapt_savepointStatements serves.legacy fun l lease => ?_
  obtain rfl : l = ⟨p, .standard⟩ := Option.some.inj (lease.symm.trans serves.lease)
  exact apply_savepointStatements rfl

/-- What the upkeep of a tenant's schema sends is confined. -/
lemma heeds_confined {c : Connection} {w : Watch e} {site : Site} {P : e.Data → Prop}
    (serves : Serves c p) (own : site.tablePrefix = some p)
    (admits : ∀ r, Confined p r → w.admits w.client r)
    (keeps : ∀ sql ps d, site.Sends c sql → Spares p sql → P d → P (e.effect sql ps d).2) :
    site.Heeds c w P where
  sends sql ps statement :=
    admits _ (confined_of_proper (fun _ => statement.proper serves own) ps)
  places sql mem := admits _ (confined_of_proper (fun _ => proper_savepointStatements mem) [])
  asks := admits _ ⟨spares_existsQuery, fun _ => ⟨rfl, by rw [table_settingsTable serves]⟩⟩
  frame sql ps d statement :=
    keeps _ ps d (.statement statement) (confined_of_proper (fun _ => statement.proper serves own) ps).1
  frameAsks ps d := keeps _ ps d .question spares_existsQuery

/-- What opens and closes transactions is confined to any prefix. -/
lemma permits_confined (p : TablePrefix) : Permits fun _ r => Confined p r where
  command _ sql mem := by
    have check : ∀ sql ∈ ["BEGIN", "COMMIT", "ROLLBACK"], Reading.ofSql sql ≠ .work := by decide
    exact check sql mem
  setSchema _ name := by
    change Reading.ofSql _ ≠ .work
    rw [Reading.ofSql_setSchema]
    decide

/-! ## Inside the caller's transaction -/

section Inside
variable {α : Type} {c : Connection} {k : Client} {s₀ : State e} {P : e.Data → Prop}
  {base : List (String × e.Data)} (hk : c.client? = some k) (ht : c.inTransaction = true)
  (exact : ∀ sql ∈ savepointStatements, c.adapt sql = sql)

/-- Watches a client while nothing is received but what is confined. -/
def confinedWatch (p : TablePrefix) (s₀ : State e) (k : Client) : Watch e :=
  ⟨s₀, k, fun _ => Confined p⟩

/-- The statements about savepoints may be received. -/
lemma admits_savepointStatements {sql : String} (mem : sql ∈ savepointStatements) :
    (confinedWatch p s₀ k).admits k (.prepared sql (some [])) :=
  confined_of_proper (fun _ => proper_savepointStatements mem) []

/-- Attempts on top of the savepoint around the work, which has data as `P` says. -/
def Guarded (P : e.Data → Prop) (base stack : List (String × e.Data)) : Prop :=
  ∃ d, P d ∧ Attempts P ((Scope.savepointName, d) :: base) stack

/-- The savepoint around the work is the first of its name. -/
lemma Guarded.reach {stack : List (String × e.Data)} (h : Guarded P base stack) :
    ∃ d, P d ∧ stack.dropWhile (·.1 ≠ Scope.savepointName) = (Scope.savepointName, d) :: base := by
  obtain ⟨d, hd, attempts⟩ := h
  exact ⟨d, hd, attempts.reach (by decide)⟩

include hk ht exact

/-- The savepoint around the work can be set, and what is below stays. -/
lemma triple_guard :
    Talk.Triple c ((confinedWatch p s₀ k).Inside (Watch.Holds (· = base) P))
      (Talk.perform s!"SAVEPOINT {Scope.savepointName}")
      (fun _ => (confinedWatch p s₀ k).Clean (Watch.Holds (Guarded P base) P))
      ((confinedWatch p s₀ k).Inside (Watch.Holds (fun _ => True) P)) := by
  have mem : s!"SAVEPOINT {Scope.savepointName}" ∈ savepointStatements := by
    simp [savepointStatements]
  refine .perform hk ht fun s inside => ?_
  rw [exact _ mem]
  have put (d : e.Data) (stack : List (String × e.Data)) (hd : P d) (same : stack = base) :
      Guarded P base ((Scope.savepointName, d) :: stack) := ⟨d, hd, same ▸ .refl _⟩
  exact (inside.run_savepoint rfl (admits_savepointStatements mem) put).mono (fun _ _ h => h)
    fun _ h => h.mono fun _ holds => ⟨trivial, holds.2⟩

/-- It can be let go of. -/
lemma triple_release :
    Talk.Triple c ((confinedWatch p s₀ k).Inside (Watch.Holds (Guarded P base) P)) Scope.release
      (fun _ => (confinedWatch p s₀ k).Inside (Watch.Holds (fun _ => True) P))
      ((confinedWatch p s₀ k).Inside (Watch.Holds (fun _ => True) P)) := by
  have mem : s!"RELEASE SAVEPOINT {Scope.savepointName}" ∈ savepointStatements := by
    simp [savepointStatements]
  refine .perform hk ht fun s inside => ?_
  rw [exact _ mem]
  have take (stack : List (String × e.Data)) (h : Guarded P base stack) :
      ∃ former earlier, stack.dropWhile (·.1 ≠ Scope.savepointName) = former :: earlier ∧ True := by
    obtain ⟨d, -, reach⟩ := h.reach
    exact ⟨_, _, reach, trivial⟩
  exact (inside.run_release rfl (admits_savepointStatements mem) take).mono
    (fun _ _ h => h.toInside) fun _ h => h.mono fun _ holds => ⟨trivial, holds.2⟩

/-- The way back to it leads to data as they were. -/
lemma triple_undoSavepoint :
    Talk.Triple c ((confinedWatch p s₀ k).Inside (Watch.Holds (Guarded P base) P))
      Scope.undoSavepoint
      (fun _ => (confinedWatch p s₀ k).Inside (Watch.Holds (fun _ => True) P))
      ((confinedWatch p s₀ k).Inside (Watch.Holds (fun _ => True) P)) := by
  have mem : s!"ROLLBACK TO SAVEPOINT {Scope.savepointName}" ∈ savepointStatements := by
    simp [savepointStatements]
  have returns : Talk.Triple c ((confinedWatch p s₀ k).Inside (Watch.Holds (Guarded P base) P))
      (Talk.perform s!"ROLLBACK TO SAVEPOINT {Scope.savepointName}")
      (fun _ => (confinedWatch p s₀ k).Inside (Watch.Holds (Guarded P base) P))
      ((confinedWatch p s₀ k).Inside (Watch.Holds (fun _ => True) P)) := by
    refine .perform hk ht fun s inside => ?_
    rw [exact _ mem]
    have back (stack : List (String × e.Data)) (h : Guarded P base stack) :
        ∃ former earlier, stack.dropWhile (·.1 ≠ Scope.savepointName) = former :: earlier ∧
          Guarded P base (former :: earlier) ∧ P former.2 := by
      obtain ⟨d, hd, reach⟩ := h.reach
      exact ⟨_, _, reach, ⟨d, hd, .refl _⟩, hd⟩
    exact (inside.run_rollbackTo rfl (admits_savepointStatements mem) back).mono
      (fun _ _ h => h.toInside) fun _ h => h.mono fun _ holds => ⟨trivial, holds.2⟩
  exact returns.bind fun _ => triple_release hk ht exact

end Inside

/-- Work in the caller's transaction that leaves nothing but attempts leaves data as `P` says. -/
lemma inside_around {α : Type} {s : Scene (State e)} {k : Client} {t₀ : Transaction e}
    {P : e.Data → Prop} (hk : s.connection.client? = some k)
    (ht : s.connection.inTransaction = true)
    (exact : ∀ sql ∈ savepointStatements, s.connection.adapt sql = sql)
    (connected : (s.world.server.sessions k).closed = false)
    (inside : (s.world.server.sessions k).transaction = some t₀) (hP : P t₀.data) {work : Talk α}
    (steady : ∀ base, Talk.Steady s.connection (Thriving (confinedWatch p s.world.server k) P base)
      (Trying (confinedWatch p s.world.server k) P base) work) :
    s.connection.Like (carry (Scope.around work) s).2.connection ∧
      (confinedWatch p s.world.server k).Inside (Watch.Holds (fun _ => True) P)
        (carry (Scope.around work) s).2.world.server := by
  have now : (confinedWatch p s.world.server k).Inside (Watch.Holds (· = t₀.savepoints) P)
      s.world.server := ⟨.refl _, .inr ⟨connected, t₀, inside, rfl, hP⟩⟩
  obtain ⟨like, entered⟩ := triple_guard hk ht exact s (.refl _) now
  rw [Scope.carry_around, Scope.carry_enter_inside ht]
  rcases opened : carry (Talk.perform s!"SAVEPOINT {Scope.savepointName}") s with ⟨failure | u, s₁⟩
  · rw [opened] at like entered
    exact ⟨like, entered⟩
  · rw [opened] at like entered
    obtain ⟨t, still, ⟨⟨d, hd, attempts⟩, ht'⟩, sound⟩ := entered.inside
    have thriving : Thriving (confinedWatch p s.world.server k) P
        ((Scope.savepointName, d) :: t₀.savepoints) s₁.world.server :=
      ⟨entered.toSince, entered.connected, t, still, ⟨attempts, ht'⟩, sound⟩
    obtain ⟨like', left⟩ := steady _ s₁ like thriving
    have guarded (stack : List (String × e.Data))
        (h : Attempts P ((Scope.savepointName, d) :: t₀.savepoints) stack) :
        Guarded P t₀.savepoints stack := ⟨d, hd, h⟩
    dsimp only [Except.map]
    rcases carried : carry work s₁ with ⟨failure | a, s₂⟩
    · rw [carried] at like' left
      have trying : (confinedWatch p s.world.server k).Inside
          (Watch.Holds (Guarded P t₀.savepoints) P) s₂.world.server :=
        Watch.Inside.mono left fun _ holds => ⟨guarded _ holds.1, holds.2⟩
      obtain ⟨like'', undone⟩ := triple_undoSavepoint hk ht exact s₂ like' trying
      exact ⟨like'', undone.always⟩
    · rw [carried] at like' left
      have trying : (confinedWatch p s.world.server k).Inside
          (Watch.Holds (Guarded P t₀.savepoints) P) s₂.world.server :=
        Watch.Inside.mono left.toInside fun _ holds => ⟨guarded _ holds.1, holds.2⟩
      obtain ⟨like'', kept⟩ := triple_release hk ht exact s₂ like' trying
      exact ⟨like'', kept.always⟩

/-- Whether a client is in no transaction that could go on. -/
def Vacant (s₀ : State e) (p : TablePrefix) (k : Client) (s : State e) : Prop :=
  State.Since (fun _ => Confined p) s₀ s ∧
    ((s.sessions k).closed = true ∨ (s.sessions k).transaction = none)

/-- Outside of transactions no savepoint can be set, so no work is done. -/
lemma vacant_around {α : Type} {s : Scene (State e)} {k : Client}
    (hk : s.connection.client? = some k) (ht : s.connection.inTransaction = true)
    (exact : ∀ sql ∈ savepointStatements, s.connection.adapt sql = sql)
    (vacant : (s.world.server.sessions k).closed = true ∨
      (s.world.server.sessions k).transaction = none) (work : Talk α) :
    s.connection.Like (carry (Scope.around work) s).2.connection ∧
      Vacant s.world.server p k (carry (Scope.around work) s).2.world.server := by
  have mem : s!"SAVEPOINT {Scope.savepointName}" ∈ savepointStatements := by
    simp [savepointStatements]
  have reading : Reading.ofSql s!"SAVEPOINT {Scope.savepointName}" = .savepoint Scope.savepointName :=
    rfl
  let r : Received := .prepared s!"SAVEPOINT {Scope.savepointName}" (some [])
  have refused : Talk.Triple s.connection (Vacant s.world.server p k)
      (Talk.perform s!"SAVEPOINT {Scope.savepointName}") (fun _ _ => False)
      (Vacant s.world.server p k) := by
    refine .perform hk ht fun server h => ?_
    obtain ⟨since, vacant⟩ := h
    have confined : Confined p r := confined_of_proper (fun _ => proper_savepointStatements mem) []
    have noted : State.Since (fun _ => Confined p) s.world.server (server.note k r) :=
      since.note confined
    rw [exact _ mem, State.run_eq]
    rcases State.receive_cases server k r (e.misfit s!"SAVEPOINT {Scope.savepointName}" [])
      s!"SAVEPOINT {Scope.savepointName}" [] with ⟨closed, eq⟩ | ⟨opened, cases⟩
    · rw [eq]
      exact ⟨since, .inl closed⟩
    · have outside : ((server.note k r).sessions k).transaction = none := by
        refine vacant.resolve_left ?_
        rw [opened]
        decide
      rcases cases with ⟨eq, -⟩ | ⟨report, eq⟩ | ⟨m, eq⟩ | ⟨reply, s', obeys, eq⟩
      · rw [eq]
        exact ⟨noted.setSession _, .inl (by rw [State.sessions_setSession])⟩
      · rw [eq, State.refuse_outside outside]
        exact ⟨noted, .inr outside⟩
      · rw [eq]
        exact ⟨noted, .inr outside⟩
      · unfold State.obey at obeys
        rw [outside, reading] at obeys
        cases obeys
  obtain ⟨like, left⟩ := refused s (.refl _) ⟨.refl _, vacant⟩
  rw [Scope.carry_around, Scope.carry_enter_inside ht]
  rcases opened : carry (Talk.perform s!"SAVEPOINT {Scope.savepointName}") s with ⟨failure | u, s₁⟩
  · rw [opened] at like left
    exact ⟨like, left⟩
  · rw [opened] at left
    exact left.elim

/-! ## Whole runs -/

section Runs
variable {α : Type} {site : Site} {s : Scene (State e)} {work : Talk α}

/-- The tables of other tenants are what they were, and nothing was received but what is confined. -/
structure Isolates (tables : e.Tables) (p : TablePrefix) (s : Scene (State e))
    (o : Except Failure α × Scene (State e)) : Prop where
  /-- What is kept agrees with what was kept. If a client that the connection can have is in a transaction
  that the connection knows nothing of, then that transaction may be kept instead. -/
  kept : tables.Agree p s.world.server.kept o.2.world.server.kept ∨
    s.connection.inTransaction = false ∧ ∃ k t, Offers s k ∧
      (s.world.server.sessions k).transaction = some t ∧ tables.Agree p t.data o.2.world.server.kept
  /-- What the caller sees inside a transaction agrees with what the caller saw. -/
  inside : s.connection.inTransaction = true → ∀ k, o.2.connection.client? = some k →
    (o.2.world.server.sessions k).closed = false →
    ∀ t, (o.2.world.server.sessions k).transaction = some t →
      tables.Agree p (s.world.server.seen k) t.data
  sent : ∃ new, o.2.world.server.log = new ++ s.world.server.log ∧ ∀ x ∈ new, Confined p x.2

/-- Whatever single requests preserve is preserved by the work. -/
def Upkeeps (site : Site) (e : Engine) (work : Talk α) : Prop :=
  ∀ (c : Connection) (good bad : State e → Prop), site.Upkeeping c good bad →
    Talk.Steady c good bad work

/-- Work of upkeep is steady under a watch that confines it to the prefix. -/
lemma Upkeeps.steady (upkeeps : Upkeeps site e work) {c : Connection} {s₀ : State e} {k : Client}
    {P : e.Data → Prop} (serves : Serves c p) (own : site.tablePrefix = some p)
    (hk : c.client? = some k) (ht : c.inTransaction = true)
    (keeps : ∀ sql ps d, site.Sends c sql → Spares p sql → P d → P (e.effect sql ps d).2)
    (base : List (String × e.Data)) :
    Talk.Steady c (Thriving (confinedWatch p s₀ k) P base) (Trying (confinedWatch p s₀ k) P base)
      work := by
  have heeds : site.Heeds c (confinedWatch p s₀ k) P :=
    heeds_confined serves own (fun _ confined => confined) keeps
  exact upkeeps c _ _ (upkeeping_attempts hk ht serves.legacy serves.exact heeds)

/-- In a clean transaction work of upkeep keeps what its statements preserve. -/
lemma Upkeeps.steady_clean (upkeeps : Upkeeps site e work) {c : Connection} {s₀ : State e} {k : Client}
    {P : e.Data → Prop} (serves : Serves c p) (own : site.tablePrefix = some p)
    (hk : c.client? = some k) (ht : c.inTransaction = true)
    (keeps : ∀ sql ps d, site.Sends c sql → Spares p sql → P d → P (e.effect sql ps d).2) :
    Talk.Steady c ((confinedWatch p s₀ k).Clean fun t => P t.data)
      ((confinedWatch p s₀ k).Inside fun t => P t.data) work := by
  intro s like clean
  obtain ⟨t, inside, hP, sound⟩ := clean.inside
  have thriving : Thriving (confinedWatch p s₀ k) P t.savepoints s.world.server :=
    ⟨clean.toSince, clean.connected, t, inside, ⟨.refl _, hP⟩, sound⟩
  obtain ⟨like', left⟩ := upkeeps.steady serves own hk ht keeps _ s like thriving
  exact ⟨like', left.mono (fun _ _ h => h.mono fun _ holds => holds.2)
    fun _ h => h.mono fun _ holds => holds.2⟩

/-- Work in a transaction of its own keeps tenants apart. -/
lemma isolates_outside (closed : s.connection.inTransaction = false) (serves : Serves s.connection p)
    (own : site.tablePrefix = some p) (upkeeps : Upkeeps site e work) :
    Isolates tables p s (carry (Scope.around work) s) := by
  let P (d : e.Data) : Prop := tables.Agree p s.world.server.kept d ∨ ∃ k t, Offers s k ∧
    (s.world.server.sessions k).transaction = some t ∧ tables.Agree p t.data d
  have keeps {c : Connection} (serves : Serves c p) (sql : String) (ps : List Parameter) (d : e.Data)
      (sends : site.Sends c sql) (spares : Spares p sql) (h : P d) : P (e.effect sql ps d).2 := by
    rcases h with h | ⟨k, t, offers, begun, h⟩
    · exact .inl (h.effect serves own sends spares ps)
    · exact .inr ⟨k, t, offers, begun, h.effect serves own sends spares ps⟩
  have prepared : Prepared (fun t => P t.data) s :=
    ⟨.inl (.refl p _), fun k offers t begun => .inr ⟨k, t, offers, begun, .refl p _⟩, fun _ h => h⟩
  have steady (c : Connection) (k : Client)
      (channel : ∃ channel, c = { s.connection with channel, inTransaction := true })
      (hk : c.client? = some k) :
      Talk.Steady c ((confinedWatch p s.world.server k).Clean fun t => P t.data)
        ((confinedWatch p s.world.server k).Inside fun t => P t.data) work := by
    obtain ⟨channel, rfl⟩ := channel
    have still : Serves { s.connection with channel, inTransaction := true } p :=
      ⟨serves.lease, serves.legacy⟩
    exact upkeeps.steady_clean still own hk rfl (keeps still)
  obtain ⟨-, leaves⟩ := around_spec closed (permits_confined p) prepared steady
  have outside : s.connection.inTransaction ≠ true := by
    rw [closed]
    decide
  rcases done : carry (Scope.around work) s with ⟨failure | a, s'⟩
  · rw [done] at leaves
    have since : State.Since (fun _ => Confined p) s.world.server s'.world.server := leaves
    exact ⟨.inl (since.kept ▸ .refl p _), fun inside => absurd inside outside, since.log⟩
  · rw [done] at leaves
    obtain ⟨k, committed⟩ := leaves
    obtain ⟨t, agrees, kept, -⟩ := committed.kept
    obtain ⟨new, log, all⟩ := committed.log
    refine ⟨?_, fun inside => absurd inside outside, (k, .simple "COMMIT") :: new, log, ?_⟩
    · rw [kept]
      exact agrees.imp_right fun former => ⟨closed, former⟩
    · exact List.forall_mem_cons.2 ⟨(permits_confined p).command k "COMMIT" (by simp), all⟩

/-- Work of a client in the caller's transaction keeps tenants apart. -/
lemma inside_held {k : Client} {d₀ : e.Data} (hk : s.connection.client? = some k)
    (ht : s.connection.inTransaction = true) (serves : Serves s.connection p)
    (own : site.tablePrefix = some p) (upkeeps : Upkeeps site e work)
    (former : ∀ t, (s.world.server.sessions k).transaction = some t → tables.Agree p d₀ t.data) :
    let o := carry (Scope.around work) s
    s.connection.Like o.2.connection ∧
      State.Since (fun _ => Confined p) s.world.server o.2.world.server ∧
      ((o.2.world.server.sessions k).closed = false →
        ∀ t, (o.2.world.server.sessions k).transaction = some t → tables.Agree p d₀ t.data) := by
  intro o
  by_cases vacant : (s.world.server.sessions k).closed = true ∨ (s.world.server.sessions k).transaction = none
  · obtain ⟨like, since, left⟩ := vacant_around (p := p) hk ht serves.exact vacant work
    refine ⟨like, since, fun connected t inside => ?_⟩
    rcases left with closed | outside
    · rw [closed] at connected
      cases connected
    · rw [outside] at inside
      cases inside
  · obtain ⟨connected, begun⟩ := not_or.1 vacant
    obtain ⟨t₀, inside⟩ := Option.ne_none_iff_exists'.1 begun
    have keeps (sql : String) (ps : List Parameter) (d : e.Data) (sends : site.Sends s.connection sql)
        (spares : Spares p sql) (h : tables.Agree p d₀ d) : tables.Agree p d₀ (e.effect sql ps d).2 :=
      h.effect serves own sends spares ps
    obtain ⟨like, left⟩ := inside_around hk ht serves.exact (Bool.eq_false_of_not_eq_true connected) inside
      (former t₀ inside) (upkeeps.steady serves own hk ht keeps)
    refine ⟨like, left.toSince, fun connected t still => ?_⟩
    rcases left.inside with ⟨lost, -⟩ | ⟨-, t', eq, -, agrees⟩
    · exact absurd (lost.symm.trans connected) (by decide)
    · obtain rfl : t' = t := Option.some.inj (eq.symm.trans still)
      exact agrees

/-- Work inside the caller's transaction keeps tenants apart. -/
lemma isolates_inside (ht : s.connection.inTransaction = true) (serves : Serves s.connection p)
    (own : site.tablePrefix = some p) (upkeeps : Upkeeps site e work) :
    Isolates tables p s (carry (Scope.around work) s) := by
  have obtained := obtains_since (s := s)
    (F := fun k t => tables.Agree p (s.world.server.seen k) t.data) (permits_confined p)
    (fun k _ t begun => by
      rw [State.seen, begun]
      exact .refl p _)
    fun _ _ h => h
  rw [Scope.carry_around_client ht]
  rcases got : outcome client s with ⟨failure | k, s'⟩
  · rw [got] at obtained
    have since := obtained.server
    refine ⟨.inl (since.kept ▸ .refl p _), fun _ k held => ?_, since.log⟩
    exact absurd (held.symm.trans (obtained.lost failure rfl)) (by simp)
  · rw [got] at obtained
    obtain ⟨held, former⟩ := obtained.held k rfl
    obtain ⟨channel, connection⟩ := obtained.connection
    dsimp only at held former connection
    have still : Serves s'.connection p := by
      rw [connection]
      exact ⟨serves.lease, serves.legacy⟩
    obtain ⟨like, since, agrees⟩ := inside_held held (by rw [connection]; exact ht) still own upkeeps
      former
    have since := obtained.server.trans since
    refine ⟨.inl (since.kept ▸ .refl p _), fun _ k' held' => ?_, since.log⟩
    obtain rfl : k = k' := Option.some.inj ((like.client?.trans held).symm.trans held')
    exact agrees

/-- Work in a scope keeps tenants apart. -/
theorem isolates_around (serves : Serves s.connection p) (own : site.tablePrefix = some p)
    (upkeeps : Upkeeps site e work) : Isolates tables p s (carry (Scope.around work) s) := by
  cases flag : s.connection.inTransaction with
  | false => exact isolates_outside flag serves own upkeeps
  | true => exact isolates_inside flag serves own upkeeps

/-- The upkeep of a tenant's schema leaves the tables of all other tenants alone, and those of a schema
without a prefix, and of the tables that tenants own it mentions the tenant's alone. Whatever the engine
keeps at first, whatever it refuses and wherever it loses the connection. -/
theorem upkeep_isolated (site : Site) (s : Scene (State e)) (tables : e.Tables)
    (serves : Serves s.connection p) (own : site.tablePrefix = some p) :
    Isolates tables p s (carry site.ensure s) ∧ Isolates tables p s (carry site.createAll s) ∧
      Isolates tables p s (carry Site.enableExtensions s) := by
  refine ⟨?_, ?_, ?_⟩
  · exact isolates_around serves own fun _ _ _ upkeeping => upkeeping.ensureWork
  · exact isolates_around serves own fun _ _ _ upkeeping => upkeeping.createWork
  · exact isolates_around serves own fun _ _ _ upkeeping => upkeeping.extensionWork

/-- A tenant's schema is created in a database that another tenant uses, where the engine refuses an
extension, and the statement that comes after ninety others. -/
theorem upkeep_isolated_shared :
    let fate (n : Nat) (sql : String) : Fate :=
      if sql = "CREATE EXTENSION IF NOT EXISTS unaccent" ∨ n = 90 then
        .refuse { code := "42501", message := "" }
      else .accept
    let kept : Database :=
      { tables := ["ada_metadata", "bob_metadata"]
        settings := [("bob_metadata", [(tenantKey, { document := some "bob" })])] }
    let p : TablePrefix := ⟨"ada_", by decide⟩
    let alone := Scene.rehearsal fate
    let s : Scene (State (Engine.ofDatabase fate)) :=
      { connection := { alone.connection with lease := some ⟨p, .standard⟩ }
        world := { alone.world with server := { alone.world.server with kept } } }
    let site : Site := { documents := true, tablePrefix := some p, tenant := some "Ada" }
    Serves s.connection p ∧ site.tablePrefix = some p ∧
      Isolates (databaseTables fate) p s (carry site.ensure s) := by
  intro fate kept p alone s site
  have serves : Serves s.connection p := ⟨rfl, fun _ mem => mem⟩
  exact ⟨serves, rfl, (upkeep_isolated site s (databaseTables fate) serves rfl).1⟩

end Runs

end Schema
end Tenancy
