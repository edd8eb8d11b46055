import Tenancy.Broker
import Tenancy.Proofs.Schema.DatabaseLedger
import Tenancy.Proofs.Schema.Passage

/-!
# Schemas that are settled

Upkeep that succeeds leaves its schema settled, whatever it found and whatever the engine refused
(`sees_settled`). Upkeep of a settled schema asks and has no cause to write (`ensure_settled`), provided that
nothing stands in its way: the engine takes what is sent, and there is a client to send it. In a transaction
of such an engine statements stand on firmer ground than elsewhere (`steadfast`): none fails.
-/

namespace Tenancy.Schema
open Connection Engine Sql
variable {e : Engine} {ledger : e.Ledger} {c : Connection} {site : Site} {k : Client}
  {s s₁ : Scene (State e)}

/-- A schema is settled for every connection with the same lease. -/
lemma Settled.congr {d : Connection} {data : e.Data} (h : Settled ledger c site data)
    (lease : d.lease = c.lease) : Settled ledger d site data := by
  have table : d.table = c.table := table_congr lease
  obtain ⟨has, current, owned⟩ := h
  unfold Ledger.Has at has
  unfold Ledger.entry at current owned
  rw [← table] at has current owned
  exact ⟨has, current, owned⟩

/-! ## The first time -/

/-- Whatever data there were, the upkeep of a schema leaves it settled. -/
lemma triple_settles {start : State e} {base : List (String × e.Data)} (held : c.client? = some k)
    (inside : c.inTransaction = true) (legible : Legible c) (ledger : e.Ledger) (site : Site) :
    Talk.Triple c (Underway start base k fun _ => True) site.upkeep
      (fun _ => Underway start base k (Settled ledger c site)) (State.Working start k) := by
  intro s like h
  obtain ⟨t, eq, holds, sound⟩ := h.inside
  have known : Underway start base k
      (fun d => ledger.entry c d tenantKey = ledger.entry c t.data tenantKey) s.world.server :=
    ⟨h.toSince, h.connected, t, eq, ⟨holds.1, rfl⟩, sound⟩
  obtain ⟨like', left⟩ := triple_upkeep held inside legible ledger _ s like known
  exact ⟨like', left.mono (fun _ _ h => h.mono fun _ holds => ⟨holds.1, holds.2.1⟩) fun _ h => h⟩

/-- After upkeep that succeeded a connection sees a schema that is settled, whatever it found and whatever
the engine refused. -/
theorem sees_settled (legible : Legible s.connection) (ledger : e.Ledger) {result : Outcome}
    (first : carry site.ensure s = (.ok result, s₁)) :
    Sees (Settled ledger s₁.connection site) s₁ := by
  have kin : s.connection.Kin s₁.connection := by
    have kept := Kin.carry site.ensure s
    rwa [first] at kept
  -- Nothing is known of the data with which the scope begins, and nothing needs to be.
  have sees : Sees (Settled ledger s.connection site) s₁ := by
    refine sees_around (Q := fun _ => Settled ledger s.connection site) legible (.trivial s)
      (fun c k start base held inside rules lease => ?_) first
    have settles : Talk.Triple c (Underway start base k fun _ => True) site.upkeep
        (fun _ => Underway start base k (Settled ledger c site)) (State.Working start k) :=
      triple_settles held inside (legible.congr rules lease) ledger site
    exact settles.weaken (fun _ h => h)
      (fun _ _ h => h.mono fun _ holds => ⟨holds.1, holds.2.congr lease.symm⟩) fun _ h => h
  exact sees.mono fun d settled => settled.congr kin.lease

/-! ## The second time -/

section Steadfast
variable {start : State e} (complies : start.Complies) {S : List (String × e.Data) → Prop}
  {P : e.Data → Prop} (held : c.client? = some k) (flag : c.inTransaction = true)

/-- A transaction that is not spoiled, with savepoints as `S` says and data as `P` says. -/
abbrev Steadfast (start : State e) (k : Client) (S : List (String × e.Data) → Prop)
    (P : e.Data → Prop) : State e → Prop :=
  (Watch.ofClient start k).Clean (Watch.Holds S P)

/-- Statements stand on it, and none fails, if the engine takes what is sent. -/
def steadfast (S : List (String × e.Data) → Prop) : Footing e c where
  client := k
  held := held
  inside := flag
  good := Steadfast start k S
  bad _ := False
  mono imp _ h := h.mono fun _ holds => ⟨holds.1, imp _ holds.2⟩
  exists_data h := by
    obtain ⟨t, -, holds, -⟩ := h.inside
    exact ⟨t.data, holds.2⟩
  run reading fits effect s h := by
    refine h.run_accept (complies.accept h.toSince _) fits (by rw [reading]; rfl) trivial
      fun t holds sound => ?_
    rw [t.obey_work _ reading, sound]
    exact ⟨_, _, rfl, holds.1, effect _ holds.2⟩

/-- A savepoint lies on top of savepoints that are as `S` says. -/
def Topped (name : String) (S : List (String × e.Data) → Prop) (stack : List (String × e.Data)) : Prop :=
  ∃ d earlier, stack = (name, d) :: earlier ∧ S earlier

include complies held flag
variable (legible : Legible c) (fits : ∀ sql ∈ savepointStatements, e.misfit sql [] = none)
  (name : String)
include legible fits

/-- A savepoint is set. -/
lemma triple_put (mem : s!"SAVEPOINT {name}" ∈ savepointStatements)
    (reading : Reading.ofSql s!"SAVEPOINT {name}" = .savepoint name) :
    Talk.Triple c (Steadfast start k S P) (Talk.perform s!"SAVEPOINT {name}")
      (fun _ => Steadfast start k (Topped name S) P) fun _ => False := by
  refine .perform held flag fun s h => ?_
  rw [legible.adapt_savepoint _ mem]
  refine h.run_accept (complies.accept h.toSince _) (fits _ mem) (by rw [reading]; rfl) trivial
    fun t holds sound => ?_
  rw [t.obey_savepoint [] reading, sound]
  exact ⟨_, _, rfl, ⟨_, _, rfl, holds.1⟩, holds.2⟩

/-- The latest savepoint is forgotten. -/
lemma triple_take (mem : s!"RELEASE SAVEPOINT {name}" ∈ savepointStatements)
    (reading : Reading.ofSql s!"RELEASE SAVEPOINT {name}" = .release name) :
    Talk.Triple c (Steadfast start k (Topped name S) P) (Talk.perform s!"RELEASE SAVEPOINT {name}")
      (fun _ => Steadfast start k S P) fun _ => False := by
  refine .perform held flag fun s h => ?_
  rw [legible.adapt_savepoint _ mem]
  refine h.run_accept (complies.accept h.toSince _) (fits _ mem) (by rw [reading]; rfl) trivial
    fun t holds sound => ?_
  obtain ⟨⟨d, earlier, top, below⟩, data⟩ := holds
  have reach : t.reach name = (name, d) :: earlier := by simp [Transaction.reach, top]
  rw [t.obey_release [] reading reach, sound]
  exact ⟨_, _, rfl, below, data⟩

end Steadfast

/-- A connection changed no data: those that are kept are what they were, and so are those that its client
sees, in the same transaction if there is one. -/
structure Unchanged (s s₁ : Scene (State e)) : Prop where
  flag : s₁.connection.inTransaction = s.connection.inTransaction
  kept : s₁.world.server.kept = s.world.server.kept
  seen : ∀ k, s.connection.client? = some k → s₁.world.server.seen k = s.world.server.seen k

/-- Where nothing stands in the way, a transaction is begun with exactly the data that are kept. -/
lemma begin_steadfast (ready : Ready s) (outside : s.connection.inTransaction = false) :
    ∃ u s₁ k, outcome Connection.begin s = (.ok u, s₁) ∧
      (∃ channel, s₁.connection = { s.connection with channel, inTransaction := true }) ∧
      (∀ d, s.connection.client? = some d → d = k) ∧
      ∃ (held : s₁.connection.client? = some k) (inside : s₁.connection.inTransaction = true),
        (steadfast ready.complies held inside (· = [])).good (· = s.world.server.kept)
          s₁.world.server := by
  obtain ⟨u, s₁, begun, ⟨channel, connection⟩, k, held, same, clean⟩ :=
    (ready.begin (fun _ _ => True) (fun _ _ => trivial) (fun _ => trivial) outside).succeeds
  refine ⟨u, s₁, k, begun, ⟨channel, connection⟩, same, held, by rw [connection], ?_⟩
  refine clean.mono fun t eq => ?_
  subst eq
  exact ⟨rfl, rfl⟩

/-- Outside of transactions, a settled schema is found up to date. -/
lemma settled_outside (ready : Ready s) (flag : s.connection.inTransaction = false)
    (legible : Legible s.connection) (settled : Settled ledger s.connection site s.world.server.kept) :
    ∃ s₁, carry site.ensure s = (.ok .upToDate, s₁) ∧ Unchanged s s₁ := by
  obtain ⟨u, s₁, k, begun, ⟨channel, connection⟩, same, held, inside, now⟩ := begin_steadfast ready flag
  have rules : s₁.connection.rules = s.connection.rules := by rw [connection]
  have lease : s₁.connection.lease = s.connection.lease := by rw [connection]
  -- From here to the end the data are exactly those that were kept, so committing them changes nothing.
  let f := steadfast ready.complies held inside (· = [])
  have works : Talk.Triple s₁.connection (f.good (· = s.world.server.kept)) site.upkeep
      (fun outcome server => outcome = .upToDate ∧ f.good (· = s.world.server.kept) server) f.bad :=
    f.triple_settled (legible.congr rules lease) ledger fun d eq => eq ▸ settled.congr lease
  obtain ⟨outcome, s₂, worked, like, rfl, good⟩ := works.succeeds (.refl _) now
  obtain ⟨s₃, ended, closed, server, -⟩ := outcome_endTransaction (like.client?.trans held)
    (like.inTransaction.trans inside) "COMMIT"
  obtain ⟨u', after, sent, committed⟩ :=
    (Watch.Clean.commit_complies good ready.complies trivial).succeeds
  rw [show Server.send k "COMMIT" s₂.world.server = _ from sent] at ended server
  have closing : carry (Scope.keep Scope.transaction) s₂ = (.ok (), s₃) := ended
  obtain ⟨t, ⟨-, data⟩, kept, -⟩ := committed.kept
  have kept : s₃.world.server.kept = s.world.server.kept := by rw [server, kept, data]
  refine ⟨s₃, ?_, closed.trans flag.symm, kept, fun d own => ?_⟩
  · rw [Site.ensure_eq, Scope.carry_around, Scope.carry_enter_outside flag, begun]
    dsimp only [Except.map]
    rw [worked]
    dsimp only
    rw [closing]
  -- A client that the connection held before is the one that it used, and is in no transaction again.
  · obtain rfl := same d own
    have ends : (s₃.world.server.sessions d).transaction = none := by
      rw [server]
      exact committed.ended
    rw [State.seen, State.seen, ends, (ready.fresh d own).outside]
    exact kept

/-- Inside the caller's transaction, a settled schema is found up to date. -/
lemma settled_inside (complies : s.world.server.Complies) {t : Transaction e}
    (flag : s.connection.inTransaction = true) (held : s.connection.client? = some k)
    (connected : (s.world.server.sessions k).closed = false)
    (inside : (s.world.server.sessions k).transaction = some t) (sound : t.spoiled = false)
    (legible : Legible s.connection) (settled : Settled ledger s.connection site t.data) :
    ∃ s₁, carry site.ensure s = (.ok .upToDate, s₁) ∧ Unchanged s s₁ := by
  have now : Steadfast s.world.server k (· = t.savepoints) (· = t.data) s.world.server :=
    ⟨.refl _, connected, t, inside, ⟨rfl, rfl⟩, sound⟩
  let f := steadfast complies held flag (Topped Scope.savepointName (· = t.savepoints))
  have works : Talk.Triple s.connection (f.good (· = t.data)) site.upkeep
      (fun outcome server => outcome = .upToDate ∧ f.good (· = t.data) server) f.bad :=
    f.triple_settled legible ledger fun d eq => eq ▸ settled
  -- All three steps succeed, and the data of the transaction are the same after each of them.
  obtain ⟨u, s₂, opened, like, good⟩ :=
    (triple_put complies held flag legible ledger.fitsPlaces Scope.savepointName (by decide)
      rfl).succeeds (.refl _) now
  obtain ⟨outcome, s₃, worked, like, rfl, good⟩ := works.succeeds like good
  obtain ⟨u', s₄, closed, like, good⟩ :=
    (triple_take complies held flag legible ledger.fitsPlaces Scope.savepointName (by decide)
      rfl).succeeds like good
  have closing : carry (Scope.keep Scope.savepoint) s₃ = (.ok u', s₄) := closed
  refine ⟨s₄, ?_, like.inTransaction, good.kept, fun d own => ?_⟩
  · rw [Site.ensure_eq, Scope.carry_around, Scope.carry_enter_inside flag, opened]
    dsimp only [Except.map]
    rw [worked]
    dsimp only
    rw [closing]
  · obtain ⟨t', inside', ⟨-, same⟩, -⟩ := good.inside
    obtain rfl : k = d := Option.some.inj (held.symm.trans own)
    rw [State.seen, State.seen, inside, show (s₄.world.server.sessions k).transaction = _ from inside']
    exact same

/-- A settled schema is up to date: its upkeep finds so, and changes no data. -/
theorem ensure_settled (complies : s.world.server.Complies)
    (lends : s.connection.inTransaction = false → ∀ number,
      s.connection.channel = .pooled number none → Pool.Lends number s.world)
    (legible : Legible s.connection) (sees : Sees (Settled ledger s.connection site) s) :
    ∃ s₁, carry site.ensure s = (.ok .upToDate, s₁) ∧ Unchanged s s₁ := by
  cases sees with
  | outside flag kept fresh => exact settled_outside ⟨complies, fresh, lends flag⟩ flag legible kept
  | inside flag held connected transaction sound data =>
    exact settled_inside complies flag held connected transaction sound legible data

/-- Ada's prefix is sanitized. -/
lemma sanitized_ada : Sanitized "ada_".toList := by decide

/-- Upkeep for Ada, where an engine that takes everything keeps a schema that is up to date: its version is
there as bytes only, its owner as a document too. -/
def upkept : Scene (State (Engine.ofDatabase fun _ _ => .accept)) :=
  let bytes (value : Json) : List UInt8 := Text.utf8Bytes value.text.toList
  let owner := Json.str "Ada"
  let alone := Scene.rehearsal fun _ _ => .accept
  { connection := { alone.connection with lease := some ⟨⟨"ada_", sanitized_ada⟩, .standard⟩ }
    world := { alone.world with
      server := { alone.world.server with
        kept :=
          { tables := ["ada_metadata"]
            settings := [("ada_metadata",
              [(versionKey, { bytes := some (bytes (.int currentVersion)) }),
                (tenantKey, { document := some owner.text, bytes := some (bytes owner) })])] } } } }

/-- The schema in the example is settled. -/
lemma sees_upkept :
    Sees (Settled (databaseLedger _) upkept.connection (upkept.connection.site "Ada"))
      upkept := by
  let site := upkept.connection.site "Ada"
  have table : upkept.connection.table settingsTable = "ada_metadata" := by decide +kernel
  let version : SettingEntry := ⟨none, some (Text.utf8Bytes (Json.int currentVersion).text.toList)⟩
  let owner : SettingEntry := ⟨some (Wire.document (Json.str "Ada").text),
    some (Text.utf8Bytes (Json.str "Ada").text.toList)⟩
  have versionThere : (databaseLedger _).entry upkept.connection upkept.world.server.kept
      versionKey = some version := by
    unfold Ledger.entry
    rw [table]
    rfl
  have ownerThere : (databaseLedger _).entry upkept.connection upkept.world.server.kept
      tenantKey = some owner := by
    unfold Ledger.entry
    rw [table]
    rfl
  refine .outside rfl ⟨?_, ?_, fun p tenant _ name => ?_⟩ fun _ _ => ⟨rfl, rfl⟩
  · unfold Ledger.Has
    rw [table]
    rfl
  · have read : site.decode versionKey (some version) = .ok (some (.int currentVersion)) :=
      Site.decode_bytes (fun _ => rfl) rfl rfl
    rw [versionThere, Site.versionIn, read]
    rfl
  · cases name
    rw [ownerThere]
    exact Site.decode_document rfl rfl (ofBytes_document (Json.parse_str _))

/-- It is up to date, and nothing changes. -/
lemma ensure_upkept :
    ∃ s₁, carry (upkept.connection.site "Ada").ensure upkept = (.ok .upToDate, s₁) ∧
      Unchanged upkept s₁ := by
  refine ensure_settled (fun _ _ _ => rfl) (fun _ number pooled => by cases pooled) ?_ sees_upkept
  exact .of_standard (fun _ mem => mem) fun l lease => by
    cases lease
    rfl

end Tenancy.Schema
