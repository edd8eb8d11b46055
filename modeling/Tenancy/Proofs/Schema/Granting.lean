import Tenancy.Proofs.Schema.Asking
import Tenancy.Proofs.Schema.History
import Tenancy.Proofs.Schema.Settlement
import Tenancy.Proofs.Schema.Statements

/-!
# Upkeep to which nothing is refused

Where nothing stands in the way, the upkeep of a schema is granted whatever it asks for, and whatever it finds
(`granted_ensure`). Nearly all of it are requests that can be granted one by one (`Acceptable`); only the
attempts to enable extensions have to be followed through their savepoints (`calm_extensions`). The engine
may still find fault with the parameters of a statement, so it is part of this that what builds a schema
needs none as it is sent (`sendable_database`).
-/

namespace Tenancy.Schema
open Connection Engine Sql Text
variable {e : Engine} {c : Connection} {site : Site} {k : Client}

/-- What builds a schema can be sent as it is, without parameters. -/
def Site.Sendable (site : Site) (e : Engine) (c : Connection) : Prop :=
  ∀ sql, site.Construction sql → e.misfit (c.adapt sql) [] = none

/-! ## Requests that can be granted one by one -/

/-- The requests that are granted in any transaction of an engine that takes everything. -/
inductive Acceptable (e : Engine) (c : Connection) : Request → Prop where
  | executes {sql : String} {ps : List Parameter} (reading : Reading.ofSql (c.adapt sql) = .work)
    (fits : e.misfit (c.adapt sql) ps = none) : Acceptable e c (.execute sql ps)
  | fetches (cursor : Cursor) : Acceptable e c (.fetchOne cursor)
  | asks : Acceptable e c (.tableExists settingsTable)

section Acceptable
variable (legible : Legible c)
include legible

/-- What builds a schema is such a request. -/
lemma Site.Constructs.acceptable (sendable : site.Sendable e c) {r : Request} (h : site.Constructs r) :
    Acceptable e c r := by
  obtain ⟨sql, rfl, construction⟩ := h
  have verb : StartsWithVerb sql := construction.startsWith.mono (by decide)
  exact .executes (ofSql_adapt legible.legacy verb) (sendable sql construction)

/-- So are the requests about a setting. -/
lemma Site.Tends.acceptable (archive : Archive e) {key : String} {r : Request} (h : site.Tends key r) :
    Acceptable e c r := by
  cases h with
  | reads =>
    obtain ⟨reading, fits⟩ := ofSql_query legible archive.toLedger site key
    exact .executes reading fits
  | fetches cursor => exact .fetches cursor
  | writes value =>
    refine .executes (ofSql_adapt legible.legacy Site.Statement.settingStatement.startsWithVerb) ?_
    rw [legible.adapt_settingStatement]
    exact archive.takes site.documents key value (settingsName_table c)

/-- So is the request for a lock. -/
lemma asks_lock (archive : Archive e) (key : String) : Asks (Acceptable e c) (Site.lock key) := by
  refine (Asks.request (.executes (ofSql_adapt legible.legacy ⟨"SELECT", by decide, by decide⟩) ?_)).bind
    fun _ => .pure ()
  rw [legible.adapt_lock]
  exact (archive.fits (settingsName_table c) key).2.1

end Acceptable

/-! ## Inside a transaction -/

section Calm
variable {start : State e} (complies : start.Complies) {S : List (String × e.Data) → Prop}
  (held : c.client? = some k) (flag : c.inTransaction = true)

/-- A transaction that is not spoiled, whatever its data are. -/
abbrev Unspoiled (start : State e) (k : Client) (S : List (String × e.Data) → Prop) : State e → Prop :=
  Steadfast start k S fun _ => True

include complies held flag

/-- Such a request is granted. -/
lemma triple_acceptable (archive : Archive e) {r : Request} (h : Acceptable e c r) :
    Talk.Triple c (Unspoiled start k S) (Procedure.request (I := talking) r)
      (fun _ => Unspoiled start k S) fun _ => False := by
  let f : Footing e c := steadfast complies held flag S
  cases h with
  | executes reading fits =>
    exact Talk.Triple.execute held flag (f.run reading fits fun _ _ => trivial)
  | fetches cursor => exact Talk.Triple.fetchOne
  | asks =>
    exact (f.triple_tableExists (P := fun _ => True) archive.toLedger).weaken (fun _ h => h)
      (fun found s h => f.mono (fun _ _ => trivial) s h) fun _ h => h

/-- So is everything that asks for nothing else. -/
lemma calm_asks (archive : Archive e) {α : Type} {p : Talk α} (asks : Asks (Acceptable e c) p) :
    Talk.Calm c (Unspoiled start k S) p (fun _ => Unspoiled start k S) (Unspoiled start k S) :=
  .of_asks asks fun _ h => triple_acceptable complies held flag archive h

variable (legible : Legible c) (archive : Archive e)
include legible archive

/-- Attempts to enable extensions are granted, and leave the savepoints that they found. -/
lemma calm_extensions (sendable : site.Sendable e c) {extensions : List String}
    (all : ∀ x ∈ extensions, x ∈ optionalExtensions) :
    Talk.Calm c (Unspoiled start k S) (Site.tryExtensions extensions) (fun _ => Unspoiled start k S)
      (Unspoiled start k S) := by
  have put : Talk.Calm c (Unspoiled start k S) (Talk.perform s!"SAVEPOINT {extensionSavepoint}")
      (fun _ => Unspoiled start k (Topped extensionSavepoint S)) (Unspoiled start k S) :=
    .of_strict (.perform _)
      (triple_put complies held flag legible archive.fitsPlaces extensionSavepoint (by decide) rfl)
  have take : Talk.Calm c (Unspoiled start k (Topped extensionSavepoint S))
      (Talk.perform s!"RELEASE SAVEPOINT {extensionSavepoint}") (fun _ => Unspoiled start k S)
      (Unspoiled start k S) :=
    .of_strict (.perform _)
      (triple_take complies held flag legible archive.fitsPlaces extensionSavepoint (by decide) rfl)
  have create {x : String} (mem : x ∈ optionalExtensions) :
      Talk.Calm c (Unspoiled start k (Topped extensionSavepoint S))
        (Talk.perform s!"CREATE EXTENSION IF NOT EXISTS {x}")
        (fun _ => Unspoiled start k (Topped extensionSavepoint S)) fun _ => False := by
    have acceptable : Acceptable e c (.execute s!"CREATE EXTENSION IF NOT EXISTS {x}" []) :=
      Site.Constructs.acceptable legible sendable ⟨_, rfl, .extension mem⟩
    exact .of_strict (.perform _) ((triple_acceptable complies held flag archive acceptable).bind
      fun _ => .pure () fun _ h => h)
  induction extensions with
  | nil => exact .pure [] fun _ h => h
  | cons x extensions ih =>
    obtain ⟨head, tail⟩ := List.forall_mem_cons.1 all
    rw [Site.tryExtensions]
    refine put.bind fun _ => (create head).attempt.bind fun result => ?_
    cases result with
    | ok u => exact take.bind fun _ => (ih tail).bind fun _ => .pure _ fun _ h => h
    | error failure => exact ⟨fun _ _ h => h.elim, fun _ _ h => h.elim⟩

/-- The creation of all tables is granted. -/
lemma calm_createTables (sendable : site.Sendable e c) :
    Talk.Calm c (Unspoiled start k S) site.createTables (fun _ => Unspoiled start k S)
      (Unspoiled start k S) := by
  refine (calm_extensions complies held flag legible archive sendable fun _ mem => mem).bind
    fun extensions => calm_asks complies held flag archive ?_
  exact (Site.asks_createEach extensions fun _ mem => mem).imp fun _ h => h.acceptable legible sendable

/-- So is an upgrade. -/
lemma calm_upgrade (sendable : site.Sendable e c) :
    Talk.Calm c (Unspoiled start k S) site.upgrade (fun _ => Unspoiled start k S)
      (Unspoiled start k S) := by
  refine (calm_createTables complies held flag legible archive sendable).bind fun _ => ?_
  exact calm_asks complies held flag archive
    (Site.asks_computeAll.imp fun _ h => h.acceptable legible sendable)

/-- So is the work that has to be done to a schema, with the writing of the version. -/
lemma calm_built {work : Talk Unit} (outcome : Outcome)
    (works : Talk.Calm c (Unspoiled start k S) work (fun _ => Unspoiled start k S)
      (Unspoiled start k S)) :
    Talk.Calm c (Unspoiled start k S) (do
      Site.lock Site.commonLock
      work
      site.writeVersion currentVersion
      return outcome) (fun _ => Unspoiled start k S) (Unspoiled start k S) := by
  have writes : Asks (Acceptable e c) (site.writeVersion currentVersion) :=
    (Site.asks_writeVersion _).imp fun _ h => h.acceptable legible archive
  refine (calm_asks complies held flag archive (asks_lock legible archive _)).bind fun _ => ?_
  refine works.bind fun _ => (calm_asks complies held flag archive writes).bind fun _ => ?_
  exact .pure outcome fun _ h => h

/-- Whatever version is found, bringing a schema up to date is granted. -/
lemma calm_bringUpToDate (sendable : site.Sendable e c) :
    Talk.Calm c (Unspoiled start k S) site.bringUpToDate (fun _ => Unspoiled start k S)
      (Unspoiled start k S) := by
  have version : Asks (Acceptable e c) site.version :=
    ((Site.asks_setting? versionKey).imp fun _ h => h.acceptable legible archive).bind fun _ =>
      .ofExcept _
  refine (calm_asks complies held flag archive (.request .asks)).bind fun found => ?_
  cases found with
  | false =>
    rw [if_neg Bool.false_ne_true]
    exact calm_built complies held flag legible archive _
      (calm_createTables complies held flag legible archive sendable)
  | true =>
    rw [if_pos rfl]
    refine (calm_asks complies held flag archive version).bind fun stored => ?_
    split
    · exact calm_asks complies held flag archive (.ofExcept _)
    · split
      · exact calm_built complies held flag legible archive _
          (calm_upgrade complies held flag legible archive sendable)
      · exact .pure _ fun _ h => h

/-- So is the upkeep of a schema. -/
theorem calm_upkeep (sendable : site.Sendable e c) :
    Talk.Calm c (Unspoiled start k S) site.upkeep (fun _ => Unspoiled start k S)
      (Unspoiled start k S) := by
  have claims : Asks (Acceptable e c) site.claim :=
    Site.asks_claim.imp fun _ h => h.acceptable legible archive
  refine (calm_asks complies held flag archive (asks_lock legible archive _)).bind fun _ => ?_
  refine (calm_bringUpToDate complies held flag legible archive sendable).bind fun outcome => ?_
  exact (calm_asks complies held flag archive claims).bind fun _ => .pure outcome fun _ h => h

end Calm

/-! ## The whole -/

/-- The end of a transaction is granted, whichever end it is. -/
lemma isOk_endTransaction {s : Scene (State e)} {start : State e} (complies : start.Complies)
    (held : s.connection.client? = some k) (inside : s.connection.inTransaction = true)
    {T : Transaction e → Prop} (clean : (Watch.ofClient start k).Clean T s.world.server)
    {command : String} (ends : command ∈ ["COMMIT", "ROLLBACK"]) :
    (outcome (endTransaction command) s).1.isOk = true := by
  obtain ⟨s₁, ended, -⟩ := outcome_endTransaction held inside command
  obtain ⟨server, sent⟩ := clean.exists_end complies ends
  rw [ended, show Server.send k command s.world.server = _ from sent]
  rfl

/-- Outside of transactions everything that the upkeep of a schema asks for is granted, if nothing stands in
its way: the engine takes every statement, a client can be had, and what builds the schema can be sent. -/
theorem granted_ensure {s : Scene (State e)} (archive : Archive e) (ready : Ready s)
    (outside : s.connection.inTransaction = false) (legible : Legible s.connection)
    (sendable : site.Sendable e s.connection) : Granted site.ensure s := by
  obtain ⟨u, s₁, k, begun, ⟨channel, connection⟩, -, held, inside, now⟩ := begin_steadfast ready outside
  have entered : carry Scope.enter s = (.ok .transaction, s₁) := by
    rw [Scope.carry_enter_outside outside, begun]
    rfl
  have legible : Legible s₁.connection := legible.congr (by rw [connection]) (by rw [connection])
  have adapts : s₁.connection.adapt = s.connection.adapt := by
    rw [connection]
    rfl
  have sendable : site.Sendable e s₁.connection := fun sql construction => by
    rw [adapts]
    exact sendable sql construction
  have calm := calm_upkeep ready.complies held inside legible archive sendable (S := (· = []))
  have now : Unspoiled s.world.server k (· = []) s₁.world.server :=
    now.mono fun _ holds => ⟨holds.1, trivial⟩
  -- However the work ends, the transaction is not spoiled, so that either end of it is granted.
  obtain ⟨like, left⟩ := calm.triple s₁ (.refl _) now
  have after : Unspoiled s.world.server k (· = []) (carry site.upkeep s₁).2.world.server :=
    left.always
  have held := like.client?.trans held
  have inside := like.inTransaction.trans inside
  rw [Site.ensure_eq]
  refine Scope.granted_around entered (calm.granted s₁ (.refl _) now) (fun a s₂ eq => ?_)
    fun failure s₂ eq => ?_
  · rw [eq] at after held inside
    exact ⟨isOk_endTransaction ready.complies held inside after (by decide), trivial⟩
  · rw [eq] at after held inside
    exact ⟨isOk_endTransaction ready.complies held inside after (by decide), trivial⟩

/-! ## What is sent to the engine that follows a script -/

section Database
variable {fate : Nat → String → Fate} {p : TablePrefix} (serves : Serves c p) {sql : String}
include serves

/-- A piece alone has no parameters. -/
lemma parameterCount_piece (some : sql.toList ≠ []) (piece : Piece p sql) :
    parameterCount (c.adapt sql) = 0 := by
  have inert := piece.leased.1
  have untagged : isUntagged (mapWords (leased p) sql.toList) :=
    isUntagged_of_not_mem (not_mem_of_isInert (by decide) inert)
  have counted := highestParameter_append untagged 0 []
  rw [List.append_nil] at counted
  rw [piece.adapt_eq serves some, parameterCount, String.toList_ofList, counted]
  rfl

/-- Neither has the definition of a function, though it has marks that look like the beginning of one. -/
lemma parameterCount_createFunction {function : String} {assignments : List (String × String)}
    (made : (Definition.createFunction function assignments).Made p) :
    parameterCount (c.adapt (Definition.createFunction function assignments).sql) = 0 := by
  rw [adapt_createFunction serves made]
  obtain ⟨⟨a, mem, rfl⟩, all⟩ := made
  have head : isUntagged (functionHead (p.apply a)).toList :=
    isUntagged_of_not_mem (not_mem_of_isInert (by decide) (leased_functionHead (p := p) mem).1)
  have mark (rest : List Char) (gap : rest.head?.any Char.isDigit = false) :
      highestParameter 0 (bodyMark syncTag ++ rest) = highestParameter 0 rest := by
    have digits : rest.takeWhile Char.isDigit = [] := by
      cases rest with
      | nil => rfl
      | cons d rest => exact List.takeWhile_cons_of_neg (by simpa using gap)
    simp [bodyMark, syncTag, highestParameter, digits]
  have begins : ((functionBody assignments).toList ++
      (bodyMark syncTag ++ functionTail.toList)).head?.any Char.isDigit = false := by
    simp [functionBody]
  rw [parameterCount, toList_createFunction, highestParameter_append head, mark _ begins,
    highestParameter_append (telling_functionBody all).untagged, mark _ (by rfl)]
  decide

/-- What builds a tenant's schema has no parameters, so it can be sent as it is. -/
theorem sendable_database (own : site.tablePrefix = some p) : site.Sendable (ofDatabase fate) c := by
  intro sql construction
  have some : sql.toList ≠ [] := construction.startsWith.ne_nil
  have none : parameterCount (c.adapt sql) = 0 := by
    cases construction with
    | extension mem =>
      have check : ∀ x ∈ optionalExtensions, Checked x.toList := by decide +kernel
      have lead : Leads "CREATE EXTENSION IF NOT EXISTS ".toList := by decide +kernel
      exact parameterCount_piece serves some (Piece.lead lead (.of_checked (check _ mem)))
    | @definition _ _ _ d mem describes memd =>
      have made : d.Made p := made_of_mem_definitions mem own describes d memd
      by_cases function : ∃ f assignments, d = .createFunction f assignments
      · obtain ⟨f, assignments, rfl⟩ := function
        exact parameterCount_createFunction serves made
      · exact parameterCount_piece serves some
          (piece_definition made fun f assignments eq => function ⟨f, assignments, eq⟩)
    | backfill mem describes => exact parameterCount_piece serves some (piece_backfill mem describes)
  change ScriptedServer.misfit? (c.adapt sql) [] = Option.none
  unfold ScriptedServer.misfit?
  rw [none]
  simp

end Database
end Tenancy.Schema
