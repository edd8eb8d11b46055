import Tenancy.Proofs.Schema.Atomicity
import Tenancy.Proofs.Schema.Footing

/-!
# What upkeep writes down

The upkeep of a schema leaves it settled, whatever it finds: with its table of settings, at the current
version, and with a prefix that is the tenant's (`triple_upkeep`). What becomes of the entry of the owner
depends on what the entry was (`Site.Claimed`): the claim is the only one who writes it. All this is about
upkeep that succeeds: the engine may refuse what it likes.
-/

namespace Tenancy

namespace Engine
open Schema Connection
variable {e : Engine} {ledger : e.Ledger} {c : Connection}

/-- Whether what builds a schema leaves data as `P` says. -/
def Ledger.Lasts (site : Site) (c : Connection) (P : e.Data → Prop) : Prop :=
  ∀ sql, site.Construction sql → ∀ d, P d → P (e.effect (c.adapt sql) [] d).2

end Engine

namespace Schema
open Connection Engine Sql
variable {e : Engine} {ledger : e.Ledger} {c : Connection} {site : Site} {P Q : e.Data → Prop}

/-- Whether data hold a schema at the current version, with `r` as the entry of the owner. -/
structure Current (ledger : e.Ledger) (c : Connection) (site : Site) (r : Option SettingEntry)
    (d : e.Data) : Prop where
  has : ledger.Has c d
  version : site.versionIn (ledger.entry c d versionKey) = .ok currentVersion
  owner : ledger.entry c d tenantKey = r

/-- What the upkeep of a schema makes of the entry of the owner: it stays, and if there is a tenant for a
prefix it is that of the tenant already; or it said nothing, and becomes that of the tenant. -/
def Site.Claimed (s : Site) (old new : Option SettingEntry) : Prop :=
  (new = old ∧ ∀ p tenant, s.tablePrefix = some p → s.tenant = some tenant →
    s.decode tenantKey old = .ok (some (.str tenant))) ∨
  ∃ p tenant, s.tablePrefix = some p ∧ s.tenant = some tenant ∧
    s.decode tenantKey old = .ok none ∧ Written s.documents (.str tenant) old new

section Lasting
variable (legible : Legible c)
include legible

/-- An entry stays through every statement that builds the schema. -/
lemma lasts_entry (ledger : e.Ledger) (site : Site) (key : String) (r : Option SettingEntry) :
    Ledger.Lasts site c fun d => ledger.entry c d key = r := fun _ construction d eq =>
  ((ledger.builds site d legible construction).2 key).trans eq

/-- So does the table of settings. -/
lemma lasts_has (ledger : e.Ledger) (site : Site) (lasts : Ledger.Lasts site c P) :
    Ledger.Lasts site c fun d => P d ∧ ledger.Has c d := fun sql construction d h =>
  ⟨lasts sql construction d h.1, (ledger.builds site d legible construction).1 h.2⟩

end Lasting

/-! ## Inside a transaction -/

section Underway
variable {k : Client} (start : State e) (base : List (String × e.Data))

/-- A transaction is under way: it is not spoiled, has attempts on top of some savepoints, and data as `P`
says. -/
abbrev Underway (k : Client) (P : e.Data → Prop) : State e → Prop :=
  (Watch.ofClient start k).Clean (Watch.Holds (Attempts (fun _ => True) base) P)

variable {start base}

/-- What a statement about data makes of a transaction that is under way. -/
lemma Underway.run {s : State e} (h : Underway start base k P s) {sql : String}
    {ps : List Parameter} {Q : Reply → e.Data → Prop} (reading : Reading.ofSql sql = .work)
    (effect : ∀ d, P d → Q (e.effect sql ps d).1 (e.effect sql ps d).2) :
    Leaves (fun reply => Underway start base k (Q reply)) (State.Working start k)
      (Server.run k sql ps s) := by
  refine h.toInside.run_reply (by rw [reading]; rfl) trivial (fun _ _ => trivial)
    (fun _ _ => trivial) fun t reply t' holds obeyed => ?_
  rw [t.obey_work ps reading] at obeyed
  split at obeyed
  · cases obeyed
  · cases obeyed
    exact ⟨holds.1, effect _ holds.2⟩

variable (start base)

/-- Statements stand on it, whatever the engine refuses. -/
def underway (held : c.client? = some k) (inside : c.inTransaction = true) : Footing e c where
  client := k
  held := held
  inside := inside
  good := Underway start base k
  bad := State.Working start k
  mono imp _ h := h.mono fun _ holds => ⟨holds.1, imp _ holds.2⟩
  exists_data h := by
    obtain ⟨t, -, holds, -⟩ := h.inside
    exact ⟨t.data, holds.2⟩
  run reading _ effect _ h := h.run reading effect

variable {start base} (held : c.client? = some k) (inside : c.inTransaction = true)

/-- Everything is excused while work is under way. -/
lemma excused_underway : (underway start base held inside).Excused P := fun _ h =>
  h.toInside.mono fun _ _ => trivial

variable (legible : Legible c)
include held inside legible

/-- What lasts through attempts to enable extensions is there again after them. -/
lemma steady_extensions (lasts : Ledger.Lasts site c P) :
    Talk.Steady c (Underway start base k P) (State.Working start k)
      (Site.tryExtensions optionalExtensions) := by
  intro s like h
  obtain ⟨t, eq, holds, sound⟩ := h.inside
  -- The attempts start from the savepoints that are there now, and end on top of them.
  have enables : Enables c (Watch.ofClient start k) P :=
    ⟨fun _ _ => trivial, fun _ _ => trivial, fun _ mem => lasts _ (.extension mem)⟩
  have thriving : Thriving (Watch.ofClient start k) P t.savepoints s.world.server :=
    ⟨h.toSince, h.connected, t, eq, ⟨.refl _, holds.2⟩, sound⟩
  obtain ⟨like', left⟩ := steady_attempts held inside legible.legacy legible.adapt_savepoint enables
    (fun _ mem => mem) s like thriving
  refine ⟨like', left.mono (fun _ _ h => h.mono fun t' holds' => ⟨?_, holds'.2⟩) fun _ h =>
    h.mono fun _ _ => trivial⟩
  exact holds'.1.on holds.1

/-- What lasts is so at every step of building. -/
lemma building_underway (lasts : Ledger.Lasts site c P) :
    site.Building c (Underway start base k P) (State.Working start k) where
  sub _ h := h.toInside.mono fun _ _ => trivial
  execute sql construction := by
    have verb : StartsWithVerb sql := construction.startsWith.mono (by decide)
    exact .execute held inside fun s h =>
      Underway.run h (Q := fun _ => P) (ofSql_adapt legible.legacy verb) (lasts sql construction)
  tryExtensions := steady_extensions held inside legible lasts

/-- When all tables were created there is that of settings. -/
lemma triple_createTables (ledger : e.Ledger) (lasts : Ledger.Lasts site c P) :
    Talk.Triple c (Underway start base k P) site.createTables
      (fun _ => Underway start base k fun d => P d ∧ ledger.Has c d) (State.Working start k) := by
  have before : site.Building c (Underway start base k P) (State.Working start k) :=
    building_underway held inside legible lasts
  -- From the statement on that creates it, the table is there, and what comes later keeps it.
  refine before.reach
    (building_underway held inside legible (lasts_has legible ledger site lasts))
    (t := Inventory.settings) (by decide) fun extensions construction => ?_
  refine .perform held inside fun s h => ?_
  refine Underway.run h (Q := fun _ d => P d ∧ ledger.Has c d) ?_ fun d hd => ?_
  · exact ofSql_adapt legible.legacy (construction.startsWith.mono (by decide))
  · refine ⟨lasts _ construction d hd, ?_⟩
    rw [legible.adapt_creation]
    exact ledger.creates _ d (settingsName_table c)

/-- What a setting that is written makes of data that are as `P` says. -/
def Rewritten (ledger : e.Ledger) (c : Connection) (site : Site) (key : String) (value : Json)
    (P : e.Data → Prop) (d' : e.Data) : Prop :=
  ledger.Has c d' ∧ ∃ d, P d ∧
    Written site.documents value (ledger.entry c d key) (ledger.entry c d' key) ∧
      ∀ other ≠ key, ledger.entry c d' other = ledger.entry c d other

/-- A setting that is written is the one that is read. -/
lemma triple_setSetting {key : String} {value : Json} (recorded : Recorded value)
    (has : ∀ d, P d → ledger.Has c d) :
    Talk.Triple c (Underway start base k P) (site.setSetting key value)
      (fun _ => Underway start base k (Rewritten ledger c site key value P))
      (State.Working start k) := by
  have statement : StartsWithVerb site.settingStatement :=
    Site.Statement.settingStatement.startsWithVerb
  refine .bind (Q := fun _ => Underway start base k (Rewritten ledger c site key value P)) ?_
    fun _ => .pure () fun _ h => h
  refine .execute held inside fun s h => ?_
  refine Underway.run h (Q := fun _ => Rewritten ledger c site key value P)
    (ofSql_adapt legible.legacy statement) fun d hd => ?_
  rw [legible.adapt_settingStatement]
  obtain ⟨still, written, others⟩ :=
    ledger.writes site.documents key d (settingsName_table c) recorded (has d hd)
  exact ⟨still, d, hd, written, others⟩

/-- The version is current once it was written, and the entry of the owner is what it was. -/
lemma triple_writeVersion {r : Option SettingEntry}
    (known : ∀ d, P d → ledger.entry c d tenantKey = r ∧ ledger.Has c d) :
    Talk.Triple c (Underway start base k P) (site.writeVersion currentVersion)
      (fun _ => Underway start base k (Current ledger c site r)) (State.Working start k) := by
  have recorded : Recorded (.int currentVersion) := rfl
  refine (triple_setSetting held inside legible recorded fun d hd => (known d hd).2).weaken
    (fun _ h => h) (fun _ s h => ?_) fun _ h => h
  refine h.mono fun t holds => ⟨holds.1, ?_⟩
  obtain ⟨has, d, hd, written, others⟩ := holds.2
  have read : site.decode versionKey (ledger.entry c t.data versionKey) =
      .ok (some (.int currentVersion)) := site.decode_written recorded written
  refine ⟨has, ?_, (others tenantKey (by decide)).trans (known d hd).1⟩
  rw [Site.versionIn, read]
  rfl

/-- Bringing the schema up to date leaves it at the current version, and the entry of the owner alone. -/
theorem triple_bringUpToDate (ledger : e.Ledger) (r : Option SettingEntry) :
    Talk.Triple c (Underway start base k fun d => ledger.entry c d tenantKey = r) site.bringUpToDate
      (fun _ => Underway start base k (Current ledger c site r)) (State.Working start k) := by
  let f : Footing e c := underway start base held inside
  have excused {P : e.Data → Prop} : f.Excused P := excused_underway held inside
  have written {P : e.Data → Prop} (outcome : Outcome)
      (known : ∀ d, P d → ledger.entry c d tenantKey = r ∧ ledger.Has c d) :
      Talk.Triple c (Underway start base k P)
        (site.writeVersion currentVersion >>= fun _ => (pure outcome : Talk Outcome))
        (fun _ => Underway start base k (Current ledger c site r)) (State.Working start k) :=
    .bind (triple_writeVersion held inside legible known) fun _ => .pure _ fun _ h => h
  have owner := lasts_entry legible ledger site tenantKey r
  refine .bind (f.triple_tableExists ledger) fun found => ?_
  cases found with
  | true =>
    rw [if_pos rfl]
    refine .bind (f.triple_version legible ledger (fun d h => h.2.2 rfl)
      fun _ => excused) fun stored => ?_
    by_cases newer : currentVersion < stored
    · rw [if_pos newer]
      exact .done (fun _ eq => by cases eq) fun _ _ s h => excused s h
    · rw [if_neg newer]
      by_cases older : stored < currentVersion
      · rw [if_pos older]
        have upgrades : Talk.Steady c
            (Underway start base k fun d => ledger.entry c d tenantKey = r ∧ ledger.Has c d)
            (State.Working start k) site.upgrade :=
          (building_underway held inside legible (lasts_has legible ledger site owner)).upgrade
        refine .bind (f.triple_lock legible ledger _) fun _ => ?_
        refine .bind (Q := fun _ => _) (upgrades.weaken (fun s h => ?_) (fun _ _ h => h)
          fun _ h => h) fun _ => written _ fun d h => h
        exact f.mono (fun d h => ⟨h.1.1, h.1.2.2 rfl⟩) s h
      · -- Here nothing is written: the version that was read is the current one.
        rw [if_neg older]
        obtain rfl : stored = currentVersion := by omega
        exact .pure _ fun s h => f.mono (fun d h => ⟨h.1.2.2 rfl, h.2, h.1.1⟩) s h
  | false =>
    rw [if_neg Bool.false_ne_true]
    refine .bind (f.triple_lock legible ledger _) fun _ => ?_
    refine .bind ((triple_createTables held inside legible ledger owner).weaken (fun s h => ?_)
      (fun _ _ h => h) fun _ h => h) fun _ => written _ fun d h => h
    exact f.mono (fun d h => h.1) s h

/-- Claiming the prefix leaves the schema settled. -/
theorem triple_claim (ledger : e.Ledger) (r : Option SettingEntry) :
    Talk.Triple c (Underway start base k (Current ledger c site r)) site.claim
      (fun _ => Underway start base k fun d =>
        Settled ledger c site d ∧ site.Claimed r (ledger.entry c d tenantKey))
      (State.Working start k) := by
  let f : Footing e c := underway start base held inside
  have excused {P : e.Data → Prop} : f.Excused P := excused_underway held inside
  unfold Site.claim
  split
  · next p tenant own name =>
    refine .bind (f.triple_setting legible ledger (fun d h => h.has)
      fun _ => excused) fun owner => ?_
    have owned {x : Option SettingEntry} (is : site.decode tenantKey x = .ok (some (.str tenant))) :
        ∀ p' tenant', site.tablePrefix = some p' → site.tenant = some tenant' →
          site.decode tenantKey x = .ok (some (.str tenant')) := by
      intro p' tenant' _ name'
      rw [name] at name'
      cases name'
      exact is
    split
    · -- Nobody owns the prefix yet.
      have recorded : Recorded (.str tenant) := trivial
      refine (triple_setSetting held inside legible recorded fun d h => h.1.has).weaken
        (fun _ h => h) (fun _ s h => ?_) fun _ h => h
      refine h.mono fun t holds => ⟨holds.1, ?_⟩
      obtain ⟨has, d, ⟨current, none⟩, written, others⟩ := holds.2
      rw [current.owner] at written none
      have claimed : site.Claimed r (ledger.entry c t.data tenantKey) :=
        .inr ⟨p, tenant, own, name, none, written⟩
      refine ⟨⟨has, ?_, owned (site.decode_written recorded written)⟩, claimed⟩
      rw [others versionKey (by decide)]
      exact current.version
    · next owner =>
      by_cases same : owner = tenant
      · subst same
        rw [if_pos rfl]
        refine .pure () fun s h => f.mono (fun d h => ?_) s h
        obtain ⟨⟨has, version, eq⟩, is⟩ := h
        exact ⟨⟨has, version, owned is⟩, .inl ⟨eq, eq ▸ owned is⟩⟩
      · -- It is somebody else's, and the claim fails.
        rw [if_neg same]
        exact .done (fun _ eq => by cases eq) fun _ _ s h => excused s h
    · exact .done (fun _ eq => by cases eq) fun _ _ s h => excused s h
  · next none =>
    refine .pure () fun s h => f.mono (fun d h => ?_) s h
    have nobody (p : TablePrefix) (tenant : String) (own : site.tablePrefix = some p)
        (name : site.tenant = some tenant) (old : Option SettingEntry) :
        site.decode tenantKey old = .ok (some (.str tenant)) := (none p tenant own name).elim
    exact ⟨⟨h.has, h.version, fun p tenant own name => nobody p tenant own name _⟩,
      .inl ⟨h.owner, fun p tenant own name => nobody p tenant own name _⟩⟩

/-- The upkeep of a schema leaves it settled, and the prefix claimed. -/
theorem triple_upkeep (ledger : e.Ledger) (r : Option SettingEntry) :
    Talk.Triple c (Underway start base k fun d => ledger.entry c d tenantKey = r) site.upkeep
      (fun _ => Underway start base k fun d =>
        Settled ledger c site d ∧ site.Claimed r (ledger.entry c d tenantKey))
      (State.Working start k) := by
  let f : Footing e c := underway start base held inside
  refine .bind (f.triple_lock legible ledger _) fun _ => ?_
  refine .bind (triple_bringUpToDate held inside legible ledger r) fun outcome => ?_
  exact .bind (triple_claim held inside legible ledger r) fun _ => .pure _ fun _ h => h

end Underway
end Schema
end Tenancy
