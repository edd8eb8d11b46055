import Tenancy.Proofs.Connection.Adapt
import Tenancy.Proofs.Schema.Scope
import Tenancy.Proofs.Schema.Upkeep
import Tenancy.Proofs.Server.Watch

/-!
# Upkeep inside the caller's transaction

Where a transaction is open, the upkeep of a schema sets savepoints in it: one around the whole, and one
around each attempt to enable an extension, which stays where the attempt is refused. `Attempts` is what
can lie on top of the caller's savepoints meanwhile; `upkeeping_attempts` says that all of the work keeps
to it. In the end `upkeep_keepsPlace` finds the caller's savepoints as they were, whatever they are
called, and after a failure the whole transaction as it was.
-/

namespace Tenancy.Schema
open Connection Engine Sql

/-- The statements about savepoints that the upkeep of a schema sends. -/
def savepointStatements : List String :=
  [s!"SAVEPOINT {Scope.savepointName}", s!"ROLLBACK TO SAVEPOINT {Scope.savepointName}",
    s!"RELEASE SAVEPOINT {Scope.savepointName}", s!"SAVEPOINT {extensionSavepoint}",
    s!"ROLLBACK TO SAVEPOINT {extensionSavepoint}", s!"RELEASE SAVEPOINT {extensionSavepoint}"]

/-- What can be checked of the statements about savepoints. -/
lemma savepointStatements_checked :
    ∀ sql ∈ savepointStatements, sql.toList ≠ [] ∧ sql.toList.all isBare ∧
      sql.toList.all Text.isAscii ∧ '?' ∉ sql.toList ∧ '%' ∉ sql.toList ∧
      (∀ w ∈ Text.words sql.toList, w.map Char.toLower ∉ soughtWords ∧
        String.ofList (w.map Char.toLower) ∉ Ownership.standard.own) ∧
      (Reading.ofSql sql).isEnd = false := by
  decide +kernel

/-- The rules have nothing to do in them. -/
lemma ordinary_savepointStatements :
    ∀ sql ∈ savepointStatements, ∀ x ∈ lexemes sql.toList, x.kind = .code →
      Ordinary x.text ∧ '%' ∉ x.text := by
  intro sql mem x memx _
  obtain ⟨some, bare, ascii, mark, percent, clear, -⟩ := savepointStatements_checked sql mem
  rw [lexemes_eq_code bare some, List.mem_singleton] at memx
  subst memx
  exact ⟨⟨ascii, mark, fun w memw => (clear w memw).1⟩, percent⟩

/-- They are sent as they are, if a lease leaves them alone. -/
lemma adapt_savepointStatements {c : Connection} (legacy : ∀ r ∈ c.rules, r ∈ legacyRules)
    (leaves : ∀ l, c.lease = some l → ∀ sql ∈ savepointStatements, l.apply sql.toList = sql.toList) :
    ∀ sql ∈ savepointStatements, c.adapt sql = sql := fun sql mem =>
  adapt_eq_self legacy (fun l lease => leaves l lease sql mem) (ordinary_savepointStatements sql mem)

/-- A lease on the usual tables does. -/
lemma apply_savepointStatements {l : Lease} (standard : l.ownership = .standard) :
    ∀ sql ∈ savepointStatements, l.apply sql.toList = sql.toList := by
  have plain := Ownership.isPlain_standard
  intro sql mem
  obtain ⟨some, bare, ascii, -, -, clear, -⟩ := savepointStatements_checked sql mem
  refine l.apply_eq_self (by rwa [standard]) fun x memx _ => ?_
  rw [lexemes_eq_code bare some, List.mem_singleton] at memx
  subst memx
  rw [standard]
  exact ⟨ascii, fun w memw => (clear w memw).2⟩

/-- They end no transaction. -/
lemma isEnd_savepointStatements :
    ∀ sql ∈ savepointStatements, (Reading.ofSql sql).isEnd = false := fun sql mem =>
  (savepointStatements_checked sql mem).2.2.2.2.2.2

section Attempts
variable {e : Engine} {P : e.Data → Prop} {base stack : List (String × e.Data)} {d : e.Data}

/-- On top of some savepoints there are those of attempts, with data as `P` says. -/
def Attempts (P : e.Data → Prop) (base stack : List (String × e.Data)) : Prop :=
  ∃ above, (∀ x ∈ above, x.1 = extensionSavepoint ∧ P x.2) ∧ stack = above ++ base

/-- An attempt is going on. -/
def Attempting (P : e.Data → Prop) (base stack : List (String × e.Data)) : Prop :=
  ∃ d earlier, stack = (extensionSavepoint, d) :: earlier ∧ P d ∧ Attempts P base earlier

/-- No attempts leave the savepoints as they were. -/
lemma Attempts.refl (base : List (String × e.Data)) : Attempts P base base :=
  ⟨[], by simp, rfl⟩

/-- More attempts may come after some. -/
lemma Attempts.on {Q : e.Data → Prop} {stack' : List (String × e.Data)} (h : Attempts Q stack stack')
    (g : Attempts P base stack) : Attempts (fun _ => True) base stack' := by
  obtain ⟨above, all, rfl⟩ := h
  obtain ⟨below, all', rfl⟩ := g
  refine ⟨above ++ below, fun x mem => ⟨?_, trivial⟩, (List.append_assoc ..).symm⟩
  rcases List.mem_append.1 mem with mem | mem
  · exact (all x mem).1
  · exact (all' x mem).1

/-- One more savepoint begins an attempt. -/
lemma Attempts.put (h : Attempts P base stack) (hd : P d) :
    Attempting P base ((extensionSavepoint, d) :: stack) := ⟨d, stack, rfl, hd, h⟩

/-- An attempt that goes on is one of some. -/
lemma Attempting.attempts (h : Attempting P base stack) : Attempts P base stack := by
  obtain ⟨d, earlier, rfl, hd, above, all, rfl⟩ := h
  exact ⟨(extensionSavepoint, d) :: above, List.forall_mem_cons.2 ⟨⟨rfl, hd⟩, all⟩, rfl⟩

/-- The savepoint of the attempt is the latest of its name. -/
lemma Attempting.reach (h : Attempting P base stack) :
    ∃ d earlier, stack.dropWhile (·.1 ≠ extensionSavepoint) = (extensionSavepoint, d) :: earlier ∧
      P d ∧ Attempts P base earlier := by
  obtain ⟨d, earlier, rfl, hd, rest⟩ := h
  exact ⟨d, earlier, by simp, hd, rest⟩

/-- A savepoint of another name is found below all attempts. -/
lemma Attempts.reach {name : String} {before : List (String × e.Data)}
    (h : Attempts P ((name, d) :: before) stack) (other : name ≠ extensionSavepoint) :
    stack.dropWhile (·.1 ≠ name) = (name, d) :: before := by
  obtain ⟨above, all, rfl⟩ := h
  rw [List.dropWhile_append_of_pos]
  · simp
  · intro x mem
    rw [(all x mem).1]
    simpa using Ne.symm other

end Attempts

/-- What has to be known of the statements that the upkeep of a schema sends: that they may be sent, and
that those about data keep them as `P` says. -/
structure Site.Heeds {e : Engine} (site : Site) (c : Connection) (w : Watch e) (P : e.Data → Prop) :
    Prop where
  sends : ∀ sql ps, site.Statement sql → w.admits w.client (.prepared (c.adapt sql) (some ps))
  places : ∀ sql ∈ savepointStatements, w.admits w.client (.prepared sql (some []))
  asks : w.admits w.client (.prepared existsQuery (some [.text (c.table settingsTable)]))
  frame : ∀ sql ps d, site.Statement sql → P d → P (e.effect (c.adapt sql) ps d).2
  frameAsks : ∀ ps d, P d → P (e.effect existsQuery ps d).2

/-- What has to be known of those that try to enable extensions. -/
structure Enables {e : Engine} (c : Connection) (w : Watch e) (P : e.Data → Prop) : Prop where
  sends : ∀ x ∈ optionalExtensions,
    w.admits w.client (.prepared (c.adapt s!"CREATE EXTENSION IF NOT EXISTS {x}") (some []))
  places : ∀ sql ∈ savepointStatements, w.admits w.client (.prepared sql (some []))
  frame : ∀ x ∈ optionalExtensions, ∀ d, P d →
    P (e.effect (c.adapt s!"CREATE EXTENSION IF NOT EXISTS {x}") [] d).2

/-- What heeds the upkeep of a site lets its extensions be enabled. -/
lemma Site.Heeds.enables {e : Engine} {site : Site} {c : Connection} {w : Watch e}
    {P : e.Data → Prop} (h : site.Heeds c w P) : Enables c w P where
  sends _ mem := h.sends _ _ (.construction (.extension mem))
  places := h.places
  frame _ mem d := h.frame _ _ d (.construction (.extension mem))

section Upkeeping
variable {e : Engine} {w : Watch e} {c : Connection} {site : Site} {P : e.Data → Prop}
  {base : List (String × e.Data)}

/-- The client is in a transaction with attempts on top of some savepoints. -/
abbrev Trying (w : Watch e) (P : e.Data → Prop) (base : List (String × e.Data)) : State e → Prop :=
  w.Inside (Watch.Holds (Attempts P base) P)

/-- The same, and the transaction is not spoiled. -/
abbrev Thriving (w : Watch e) (P : e.Data → Prop) (base : List (String × e.Data)) : State e → Prop :=
  w.Clean (Watch.Holds (Attempts P base) P)

variable (hk : c.client? = some w.client) (ht : c.inTransaction = true)
  (legacy : ∀ r ∈ c.rules, r ∈ legacyRules) (exact : ∀ sql ∈ savepointStatements, c.adapt sql = sql)
include hk ht legacy exact

/-- To try extensions leaves the savepoints below as they were, whether it succeeds or not. -/
lemma steady_attempts (enables : Enables c w P) {extensions : List String}
    (all : ∀ x ∈ extensions, x ∈ optionalExtensions) :
    Talk.Steady c (Thriving w P base) (Trying w P base) (Site.tryExtensions extensions) := by
  have begins : Talk.Triple c (Thriving w P base)
      (Talk.perform s!"SAVEPOINT {extensionSavepoint}")
      (fun _ => w.Clean (Watch.Holds (Attempting P base) P)) (Trying w P base) := by
    refine .perform hk ht fun s good => ?_
    rw [exact _ (by simp [savepointStatements])]
    exact good.toInside.run_savepoint rfl (enables.places _ (by simp [savepointStatements]))
      fun d stack hd h => h.put hd
  have tries {extension : String} (mem : extension ∈ optionalExtensions) :
      Talk.Triple c (w.Clean (Watch.Holds (Attempting P base) P))
        (Talk.perform s!"CREATE EXTENSION IF NOT EXISTS {extension}")
        (fun _ => w.Clean (Watch.Holds (Attempting P base) P))
        (w.Inside (Watch.Holds (Attempting P base) P)) := by
    have verb : StartsWithVerb s!"CREATE EXTENSION IF NOT EXISTS {extension}" :=
      .append ⟨"CREATE", by decide, by decide⟩ _
    refine .perform hk ht fun s good => ?_
    exact good.toInside.run_work (ofSql_adapt legacy verb) (enables.sends _ mem) (enables.frame _ mem)
  have keeps : Talk.Triple c (w.Clean (Watch.Holds (Attempting P base) P))
      (Talk.perform s!"RELEASE SAVEPOINT {extensionSavepoint}")
      (fun _ => Thriving w P base) (Trying w P base) := by
    refine .perform hk ht fun s good => ?_
    rw [exact _ (by simp [savepointStatements])]
    have take (stack : List (String × e.Data)) (h : Attempting P base stack) :
        ∃ former earlier, stack.dropWhile (·.1 ≠ extensionSavepoint) = former :: earlier ∧
          Attempts P base earlier := by
      obtain ⟨d, earlier, reach, -, rest⟩ := h.reach
      exact ⟨_, earlier, reach, rest⟩
    exact (good.toInside.run_release rfl (enables.places _ (by simp [savepointStatements])) take).mono
      (fun _ _ h => h) fun _ h => h.mono fun _ holds => ⟨holds.1.attempts, holds.2⟩
  have undoes : Talk.Triple c (w.Inside (Watch.Holds (Attempting P base) P))
      (Talk.perform s!"ROLLBACK TO SAVEPOINT {extensionSavepoint}")
      (fun _ => Thriving w P base) (Trying w P base) := by
    refine .perform hk ht fun s bad => ?_
    rw [exact _ (by simp [savepointStatements])]
    have back (stack : List (String × e.Data)) (h : Attempting P base stack) :
        ∃ former earlier, stack.dropWhile (·.1 ≠ extensionSavepoint) = former :: earlier ∧
          Attempts P base (former :: earlier) ∧ P former.2 := by
      obtain ⟨d, earlier, reach, hd, rest⟩ := h.reach
      exact ⟨_, earlier, reach, (rest.put hd).attempts, hd⟩
    exact (bad.run_rollbackTo rfl (enables.places _ (by simp [savepointStatements])) back).mono
      (fun _ _ h => h) fun _ h => h.mono fun _ holds => ⟨holds.1.attempts, holds.2⟩
  induction extensions with
  | nil => exact .pure []
  | cons extension extensions ih =>
    obtain ⟨head, tail⟩ := List.forall_mem_cons.1 all
    rw [Site.tryExtensions]
    refine Talk.Triple.bind begins fun _ => ?_
    refine Talk.Triple.bind (tries head).attempt fun result => ?_
    cases result with
    | ok u => exact Talk.Triple.bind keeps fun _ => (ih tail).bind fun _ => .pure _
    | error failure => exact Talk.Triple.bind undoes fun _ => ih tail

/-- The upkeep of a schema leaves attempts on top of the savepoints that it found, and data as `P`
says. -/
theorem upkeeping_attempts (heeds : site.Heeds c w P) :
    site.Upkeeping c (Thriving w P base) (Trying w P base) where
  sub _ h := h.toInside
  execute _ _ statement := .execute hk ht fun _ good =>
    good.toInside.run_work (ofSql_adapt legacy statement.startsWithVerb)
      (heeds.sends _ _ statement) fun d => heeds.frame _ _ d statement
  tableExists :=
    .tableExists hk ht
      (fun _ good => good.toInside.run_work ofSql_existsQuery heeds.asks (heeds.frameAsks _))
      fun _ h => h.toInside
  tryExtensions := steady_attempts hk ht legacy exact heeds.enables fun _ mem => mem

end Upkeeping

/-! ## The caller's transaction -/

section Place
variable {e : Engine} {α : Type} {c : Connection} {s₀ : State e} {k : Client} {t₀ : Transaction e}

/-- Whether a statement was run that neither begins nor ends a transaction. -/
def IsInner (r : Received) : Prop :=
  ∃ sql ps, r = .prepared sql (some ps) ∧ sql ∉ ["BEGIN", "COMMIT", "ROLLBACK"]

/-- The transaction of the caller goes on: nothing was received but statements of the caller inside of it,
and nothing was kept. Its savepoints are those that it had, and after a failure it is the transaction that
it was. -/
def KeepsPlace (s₀ : State e) (k : Client) (t₀ : Transaction e)
    (o : Except Failure α × Scene (State e)) : Prop :=
  o.2.connection.inTransaction = true ∧
    State.Since (fun d r => d = k ∧ IsInner r) s₀ o.2.world.server ∧
    (o.2.world.server.sessions k).closed = false ∧
    Leaves
      (fun _ server => ∃ t, (server.sessions k).transaction = some t ∧ t.savepoints = t₀.savepoints)
      (fun server => (server.sessions k).transaction = some t₀) (o.1, o.2.world.server)

/-- Watches the transaction of the caller. -/
def placeWatch (s₀ : State e) (k : Client) : Watch e :=
  ⟨s₀, k, fun d r => d = k ∧ IsInner r⟩

/-- A statement about savepoints is one inside of the transaction. -/
lemma isInner_savepointStatements :
    ∀ sql ∈ savepointStatements, IsInner (.prepared sql (some [])) := by
  have check : ∀ sql ∈ savepointStatements, sql ∉ ["BEGIN", "COMMIT", "ROLLBACK"] := by
    decide +kernel
  exact fun sql mem => ⟨sql, [], rfl, check sql mem⟩

/-- A watch on savepoints heeds the upkeep of every site. -/
lemma heeds_place (legacy : ∀ r ∈ c.rules, r ∈ legacyRules) (site : Site) :
    site.Heeds c (placeWatch s₀ k) fun _ => True where
  sends _ _ statement :=
    ⟨rfl, _, _, rfl, adapt_not_mem (fun r mem => keepsGaps_of_mem_legacyRules r (legacy r mem))
      statement.startsWithVerb.any_isGap⟩
  places sql mem := ⟨rfl, isInner_savepointStatements sql mem⟩
  asks := ⟨rfl, _, _, rfl, not_mem_of_any_isGap any_existsQuery⟩
  frame _ _ _ _ _ := trivial
  frameAsks _ _ _ := trivial

variable (hk : c.client? = some k) (ht : c.inTransaction = true)
  (exact : ∀ sql ∈ savepointStatements, c.adapt sql = sql) (willing : e.Willing savepointStatements)
include hk ht exact willing

/-- A statement about savepoints that makes sense is obeyed. -/
lemma triple_place {T U : Transaction e → Prop} {sql : String} (mem : sql ∈ savepointStatements)
    (obeys : ∀ t, T t → ∃ reply t', t.obey sql [] = .ok (reply, t') ∧ U t') :
    Talk.Triple c ((placeWatch s₀ k).Inside T) (Talk.perform sql)
      (fun _ => (placeWatch s₀ k).Clean U) (fun _ => False) := by
  refine .perform hk ht fun s inside => ?_
  rw [exact sql mem]
  exact inside.run_willing willing mem (isEnd_savepointStatements sql mem)
    ⟨rfl, isInner_savepointStatements sql mem⟩ obeys

/-- The savepoint around the work is set, unless the transaction is spoiled: then it stays as it is. -/
lemma triple_enter :
    Talk.Triple c ((placeWatch s₀ k).Inside (· = t₀))
      (Talk.perform s!"SAVEPOINT {Scope.savepointName}")
      (fun _ s => t₀.spoiled = false ∧ Thriving (placeWatch s₀ k) (fun _ => True)
        ((Scope.savepointName, t₀.data) :: t₀.savepoints) s)
      ((placeWatch s₀ k).Inside (· = t₀)) := by
  have mem : s!"SAVEPOINT {Scope.savepointName}" ∈ savepointStatements := by
    simp [savepointStatements]
  have reading : Reading.ofSql s!"SAVEPOINT {Scope.savepointName}" = .savepoint Scope.savepointName :=
    rfl
  cases spoiled : t₀.spoiled with
  | false =>
    refine (triple_place hk ht exact willing mem (U := Watch.Holds
      (Attempts (fun _ => True) ((Scope.savepointName, t₀.data) :: t₀.savepoints)) fun _ => True)
      fun t same => ?_).weaken (fun _ h => h) (fun _ s h => ⟨rfl, h⟩) fun _ h => h.elim
    subst same
    rw [t.obey_savepoint [] reading, spoiled]
    exact ⟨_, _, rfl, .refl _, trivial⟩
  | true =>
    -- A spoiled transaction obeys no such statement, and being refused changes nothing about it.
    refine .perform hk ht fun s inside => ?_
    rw [exact _ mem]
    have refused : Leaves (fun _ => (placeWatch s₀ k).Clean fun _ => False)
        ((placeWatch s₀ k).Inside (· = t₀))
        (Server.run k s!"SAVEPOINT {Scope.savepointName}" [] s) := by
      refine inside.run (isEnd_savepointStatements _ mem)
        ⟨rfl, isInner_savepointStatements _ mem⟩ (fun t same => same) (fun t same => ?_)
        fun t reply t' same obeyed => ?_
      · subst same
        rw [← spoiled]
      · subst same
        rw [t.obey_savepoint [] reading, spoiled] at obeyed
        cases obeyed
    refine refused.mono (fun _ _ h => ?_) fun _ h => h
    obtain ⟨t, -, holds, -⟩ := h.inside
    exact holds.elim

/-- After the work the savepoint around it is forgotten. -/
lemma triple_keep :
    Talk.Triple c
      (Thriving (placeWatch s₀ k) (fun _ => True) ((Scope.savepointName, t₀.data) :: t₀.savepoints))
      Scope.release (fun _ => (placeWatch s₀ k).Clean fun t => t.savepoints = t₀.savepoints)
      fun _ => False := by
  have mem : s!"RELEASE SAVEPOINT {Scope.savepointName}" ∈ savepointStatements := by
    simp [savepointStatements]
  have reading : Reading.ofSql s!"RELEASE SAVEPOINT {Scope.savepointName}" =
      .release Scope.savepointName := rfl
  refine (triple_place hk ht exact willing mem fun t h => ?_).weaken (fun _ h => h.inside_sound)
    (fun _ _ h => h) fun _ h => h
  obtain ⟨⟨attempts, -⟩, sound⟩ := h
  rw [t.obey_release [] reading (attempts.reach (by decide)), sound]
  exact ⟨_, _, rfl, rfl⟩

/-- After a failure of the work the way back to that savepoint leads to the transaction as it was. -/
lemma triple_undo (sound : t₀.spoiled = false) :
    Talk.Triple c
      (Trying (placeWatch s₀ k) (fun _ => True) ((Scope.savepointName, t₀.data) :: t₀.savepoints))
      Scope.undoSavepoint (fun _ => (placeWatch s₀ k).Inside (· = t₀)) fun _ => False := by
  have back : s!"ROLLBACK TO SAVEPOINT {Scope.savepointName}" ∈ savepointStatements := by
    simp [savepointStatements]
  have readBack : Reading.ofSql s!"ROLLBACK TO SAVEPOINT {Scope.savepointName}" =
      .rollbackTo Scope.savepointName := rfl
  have forget : s!"RELEASE SAVEPOINT {Scope.savepointName}" ∈ savepointStatements := by
    simp [savepointStatements]
  have readForget : Reading.ofSql s!"RELEASE SAVEPOINT {Scope.savepointName}" =
      .release Scope.savepointName := rfl
  have returns : Talk.Triple c
      (Trying (placeWatch s₀ k) (fun _ => True) ((Scope.savepointName, t₀.data) :: t₀.savepoints))
      (Talk.perform s!"ROLLBACK TO SAVEPOINT {Scope.savepointName}")
      (fun _ => (placeWatch s₀ k).Clean (· =
        { data := t₀.data, savepoints := (Scope.savepointName, t₀.data) :: t₀.savepoints }))
      fun _ => False := by
    refine triple_place hk ht exact willing back fun t h => ?_
    rw [t.obey_rollbackTo [] readBack (h.1.reach (by decide))]
    exact ⟨_, _, rfl, rfl⟩
  refine returns.bind fun _ => ?_
  refine (triple_place hk ht exact willing forget (U := (· = t₀)) fun t same => ?_).weaken
    (fun _ h => h.toInside) (fun _ _ h => h.toInside) fun _ h => h
  subst same
  have reach : Transaction.reach
      { data := t₀.data, savepoints := (Scope.savepointName, t₀.data) :: t₀.savepoints }
      Scope.savepointName = (Scope.savepointName, t₀.data) :: t₀.savepoints := by
    simp [Transaction.reach]
  rw [Transaction.obey_release _ [] readForget reach]
  refine ⟨_, _, rfl, ?_⟩
  rw [← sound]

end Place

section Around
variable {e : Engine} {α : Type} {s : Scene (State e)} {k : Client} {t₀ : Transaction e}

/-- What is left of the caller's transaction when it is as it was. -/
lemma place_of_inside {s₀ s : State e} (stays : ¬ e.Closes)
    (h : (placeWatch s₀ k).Inside (· = t₀) s) :
    State.Since (fun d r => d = k ∧ IsInner r) s₀ s ∧ (s.sessions k).closed = false ∧
      (s.sessions k).transaction = some t₀ := by
  obtain ⟨connected, t, inside, same⟩ := h.inside.resolve_left fun lost => stays lost.2
  exact ⟨h.toSince, connected, same ▸ inside⟩

/-- Work that leaves nothing but attempts keeps the place of the caller's transaction. -/
theorem keepsPlace_around (hk : s.connection.client? = some k)
    (ht : s.connection.inTransaction = true)
    (exact : ∀ sql ∈ savepointStatements, s.connection.adapt sql = sql)
    (willing : e.Willing savepointStatements)
    (connected : (s.world.server.sessions k).closed = false)
    (inside : (s.world.server.sessions k).transaction = some t₀) {work : Talk α}
    (steady : ∀ base, Talk.Steady s.connection
      (Thriving (placeWatch s.world.server k) (fun _ => True) base)
      (Trying (placeWatch s.world.server k) (fun _ => True) base) work) :
    KeepsPlace s.world.server k t₀ (carry (Scope.around work) s) := by
  have now : (placeWatch s.world.server k).Inside (· = t₀) s.world.server :=
    ⟨.refl _, .inr ⟨connected, t₀, inside, rfl⟩⟩
  obtain ⟨like, entered⟩ := triple_enter hk ht exact willing s (.refl _) now
  rw [Scope.carry_around, Scope.carry_enter_inside ht]
  rcases opened : carry (Talk.perform s!"SAVEPOINT {Scope.savepointName}") s with ⟨failure | u, s₁⟩
  · rw [opened] at like entered
    obtain ⟨quiet, connected, same⟩ := place_of_inside willing.stays entered
    exact ⟨like.inTransaction.trans ht, quiet, connected, same⟩
  · rw [opened] at like entered
    obtain ⟨sound, thriving⟩ := entered
    obtain ⟨like', left⟩ := steady _ s₁ like thriving
    dsimp only [Except.map]
    rcases carried : carry work s₁ with ⟨failure | a, s₂⟩
    · rw [carried] at like' left
      obtain ⟨like'', undone⟩ := triple_undo hk ht exact willing sound s₂ like' left
      change s.connection.Like (carry Scope.savepoint.undo s₂).2.connection at like''
      dsimp only
      rcases closed : carry Scope.savepoint.undo s₂ with ⟨failure' | u, s₃⟩
      · rw [show carry Scope.undoSavepoint s₂ = _ from closed] at undone
        exact undone.elim
      · rw [show carry Scope.undoSavepoint s₂ = _ from closed] at undone
        rw [closed] at like''
        obtain ⟨quiet, connected, same⟩ := place_of_inside willing.stays undone
        exact ⟨like''.inTransaction.trans ht, quiet, connected, same⟩
    · rw [carried] at like' left
      obtain ⟨like'', kept⟩ := triple_keep hk ht exact willing s₂ like' left
      change s.connection.Like (carry Scope.savepoint.keep s₂).2.connection at like''
      dsimp only
      rcases closed : carry Scope.savepoint.keep s₂ with ⟨failure' | u, s₃⟩
      · rw [show carry Scope.release s₂ = _ from closed] at kept
        exact kept.elim
      · rw [show carry Scope.release s₂ = _ from closed] at kept
        rw [closed] at like''
        obtain ⟨t, inside, savepoints, -⟩ := kept.inside
        exact ⟨like''.inTransaction.trans ht, kept.toSince, kept.connected, t, inside, savepoints⟩

/-- Inside the caller's transaction, schemas are brought up to date, tables created and extensions enabled
without beginning or ending a transaction. The caller's savepoints are afterwards those that they were,
whatever their names, and after a failure the transaction is in every respect the one that it was,
whatever the engine refused. It has to take the statements about savepoints, and no lease may find the
name of a table in them. -/
theorem upkeep_keepsPlace (site : Site) (s : Scene (State e)) (k : Client) (t₀ : Transaction e)
    (hk : s.connection.client? = some k) (ht : s.connection.inTransaction = true)
    (legacy : ∀ r ∈ s.connection.rules, r ∈ legacyRules)
    (leaves : ∀ l, s.connection.lease = some l →
      ∀ sql ∈ savepointStatements, l.apply sql.toList = sql.toList)
    (willing : e.Willing savepointStatements)
    (connected : (s.world.server.sessions k).closed = false)
    (inside : (s.world.server.sessions k).transaction = some t₀) :
    KeepsPlace s.world.server k t₀ (carry site.ensure s) ∧
      KeepsPlace s.world.server k t₀ (carry site.createAll s) ∧
      KeepsPlace s.world.server k t₀ (carry Site.enableExtensions s) := by
  have exact := adapt_savepointStatements legacy leaves
  have upkeeping (base : List (String × e.Data)) :
      site.Upkeeping s.connection (Thriving (placeWatch s.world.server k) (fun _ => True) base)
        (Trying (placeWatch s.world.server k) (fun _ => True) base) :=
    upkeeping_attempts hk ht legacy exact (heeds_place legacy site)
  refine ⟨?_, ?_, ?_⟩
  · exact keepsPlace_around hk ht exact willing connected inside fun base =>
      (upkeeping base).ensureWork
  · exact keepsPlace_around hk ht exact willing connected inside fun base =>
      (upkeeping base).createWork
  · exact keepsPlace_around hk ht exact willing connected inside fun base =>
      (upkeeping base).extensionWork

/-- A tenant's schema is created inside a transaction with savepoints that are called like those of the
upkeep, where the engine refuses an extension. -/
theorem upkeep_keepsPlace_shadowed :
    let fate (_ : Nat) (sql : String) : Fate :=
      if sql = "CREATE EXTENSION IF NOT EXISTS unaccent" then .refuse { code := "42501", message := "" }
      else .accept
    let t₀ : Transaction (Engine.ofDatabase fate) :=
      { data := {}, savepoints := [(extensionSavepoint, {}), (Scope.savepointName, {})] }
    let alone := Scene.rehearsal fate
    let s : Scene (State (Engine.ofDatabase fate)) :=
      { connection :=
          { alone.connection with
            inTransaction := true, lease := some ⟨⟨"ada_", by decide⟩, .standard⟩ }
        world :=
          { alone.world with
            server := alone.world.server.setSession ⟨1⟩ { transaction := some t₀ } } }
    s.connection.client? = some ⟨1⟩ ∧ s.connection.inTransaction = true ∧
      (∀ r ∈ s.connection.rules, r ∈ legacyRules) ∧
      (∀ l, s.connection.lease = some l →
        ∀ sql ∈ savepointStatements, l.apply sql.toList = sql.toList) ∧
      (Engine.ofDatabase fate).Willing savepointStatements ∧
      (s.world.server.sessions ⟨1⟩).closed = false ∧
      (s.world.server.sessions ⟨1⟩).transaction = some t₀ ∧
      KeepsPlace s.world.server ⟨1⟩ t₀
        (carry (Site.ensure { documents := true, tablePrefix := some ⟨"ada_", by decide⟩ }) s) := by
  intro fate t₀ alone s
  have legacy : ∀ r ∈ s.connection.rules, r ∈ legacyRules := fun _ mem => mem
  have leaves : ∀ l, s.connection.lease = some l →
      ∀ sql ∈ savepointStatements, l.apply sql.toList = sql.toList := by
    intro l lease
    cases lease
    exact apply_savepointStatements rfl
  have willing : (Engine.ofDatabase fate).Willing savepointStatements := by
    refine ⟨?_, fun sql mem n => ?_, ?_⟩
    · rintro ⟨n, sql, close⟩
      change fate n sql = .close at close
      unfold fate at close
      split at close
      · cases close
      · cases close
    · have other : ∀ sql ∈ savepointStatements, sql ≠ "CREATE EXTENSION IF NOT EXISTS unaccent" := by
        decide +kernel
      exact if_neg (other sql mem)
    · show ∀ sql ∈ savepointStatements, ScriptedServer.misfit? sql [] = none
      decide +kernel
  exact ⟨rfl, rfl, legacy, leaves, willing, rfl, rfl,
    (upkeep_keepsPlace _ s ⟨1⟩ t₀ rfl rfl legacy leaves willing rfl rfl).1⟩

end Around

end Tenancy.Schema
