import Tenancy.Proofs.Schema.Isolation
import Tenancy.Proofs.Schema.Settlement

/-!
# One tenant for a prefix

Names of tenants can lead to the same prefix; in a database, only one of them can have it. `Run` is what
happens to an engine one thing after the other: the upkeep of schemas for tenants, each in a transaction of
its own, and anything else that leaves the entries of owners alone. Who succeeded first stays the owner
(`Run.settles`), so all who succeed for a prefix are the same tenant, and whoever comes later for another
one fails and changes nothing (`Run.one_tenant`). That holds whether documents are used or not, in any
mixture: an owner is one that can be read either way (`Owned`).
-/

namespace Tenancy.Schema
open Connection Engine Sql
variable {e : Engine} {ledger : e.Ledger} {p q : TablePrefix}

/-- Whether an entry names a tenant as the owner, whether documents are used or not. -/
def Owned (x : Option SettingEntry) (tenant : String) : Prop :=
  ∀ site : Site, site.decode tenantKey x = .ok (some (.str tenant))

/-- An entry tells one owner. -/
lemma Owned.unique {x : Option SettingEntry} {tenant other : String} (h : Owned x tenant)
    (g : Owned x other) : tenant = other := by
  have same := (h { documents := true }).symm.trans (g { documents := true })
  cases same
  rfl

/-- The entry of the owner of a prefix. -/
def ownerEntry (ledger : e.Ledger) (p : TablePrefix) (d : e.Data) : Option SettingEntry :=
  ledger.stored (ledger.contents d (p.apply settingsTable)) tenantKey

/-- The upkeep of a schema for a tenant, and what came of it. -/
structure Call (e : Engine) where
  tablePrefix : TablePrefix
  tenant : String
  result : Except Failure Outcome
  before : State e
  after : State e

namespace Call

def Succeeds (x : Call e) : Prop := ∃ outcome, x.result = .ok outcome

def Fails (x : Call e) : Prop := ∃ failure, x.result = .error failure

/-- The call that a connection makes for a tenant. -/
def ofScene (p : TablePrefix) (tenant : String) (s : Scene (State e)) : Call e :=
  let o := carry (s.connection.site tenant).ensure s
  ⟨p, tenant, o.1, s.world.server, o.2.world.server⟩

end Call

/-- A connection can do something for the tenant of a prefix in a transaction of its own: it is in none,
and neither is any client that it can get without logging one in. -/
structure Clear (p : TablePrefix) (s : Scene (State e)) : Prop where
  serves : Serves s.connection p
  outside : s.connection.inTransaction = false
  alone : ∀ k, Offers s k → (s.world.server.sessions k).transaction = none

/-- What happens to an engine, with the calls that were made, the latest first. -/
inductive Run (ledger : e.Ledger) : List (Call e) → State e → Prop where
  /-- At first each prefix has nobody or is somebody's. -/
  | start {s : State e}
    (known : ∀ p, ownerEntry ledger p s.kept = none ∨
      ∃ tenant, Owned (ownerEntry ledger p s.kept) tenant) : Run ledger [] s
  /-- Anything may happen that leaves the entries of owners alone. -/
  | other {calls : List (Call e)} {s s' : State e} (run : Run ledger calls s)
    (same : ∀ p, ownerEntry ledger p s'.kept = ownerEntry ledger p s.kept) : Run ledger calls s'
  | call {calls : List (Call e)} {s : Scene (State e)} (run : Run ledger calls s.world.server)
    (p : TablePrefix) (tenant : String) (clear : Clear p s) :
    Run ledger (.ofScene p tenant s :: calls) (Call.ofScene p tenant s).after

/-! ## One call -/

section Calls
variable {s : Scene (State e)} {tenant : String}

/-- A connection that serves a tenant is legible. -/
lemma legible_of_serves (serves : Serves s.connection p) : Legible s.connection :=
  .of_standard serves.legacy fun l lease => by
    rw [serves.lease] at lease
    cases lease
    rfl

/-- A call that succeeds has claimed the prefix, and one that fails has kept nothing. -/
lemma claims_ensure (ledger : e.Ledger) (clear : Clear p s) (site : Site) :
    Leaves
      (fun _ s₁ => site.Claimed (ownerEntry ledger p s.world.server.kept)
        (ownerEntry ledger p s₁.world.server.kept))
      (fun s₁ => State.Same s.world.server s₁.world.server) (carry site.ensure s) := by
  obtain ⟨serves, outside, alone⟩ := clear
  have legible := legible_of_serves serves
  let r := ownerEntry ledger p s.world.server.kept
  have permits : Permits fun _ _ => True := ⟨fun _ _ _ => trivial, fun _ _ => trivial⟩
  -- The transaction begins with the data that are kept, and so with the owner that is known.
  have prepared : Prepared (fun t : Transaction e => ownerEntry ledger p t.data = r) s := by
    refine ⟨rfl, fun k offers t begun => ?_, fun _ h => h⟩
    rw [alone k offers] at begun
    cases begun
  have works (c : Connection) (k : Client)
      (channel : ∃ channel, c = { s.connection with channel, inTransaction := true })
      (held : c.client? = some k) :
      Talk.Triple c ((Watch.ofClient s.world.server k).Clean fun t => ownerEntry ledger p t.data = r)
        site.upkeep
        (fun _ => (Watch.ofClient s.world.server k).Clean fun t =>
          site.Claimed r (ownerEntry ledger p t.data))
        ((Watch.ofClient s.world.server k).Inside fun _ => True) := by
    obtain ⟨channel, rfl⟩ := channel
    have table := table_settingsTable (c := { s.connection with channel, inTransaction := true })
      ⟨serves.lease, serves.legacy⟩
    have entry (d : e.Data) : ledger.entry { s.connection with channel, inTransaction := true } d
        tenantKey = ownerEntry ledger p d := by
      unfold Ledger.entry
      rw [table]
      rfl
    intro s₁ like clean
    obtain ⟨t, eq, known, sound⟩ := clean.inside
    have underway : Underway s.world.server t.savepoints k
        (fun d => ledger.entry { s.connection with channel, inTransaction := true } d tenantKey = r)
        s₁.world.server :=
      ⟨clean.toSince, clean.connected, t, eq, ⟨.refl _, (entry t.data).trans known⟩, sound⟩
    obtain ⟨like', left⟩ :=
      triple_upkeep held rfl (legible.congr rfl rfl) ledger r s₁ like underway
    refine ⟨like', left.mono (fun _ _ h => h.mono fun t holds => ?_) fun _ h => h⟩
    rw [← entry]
    exact holds.2.2
  -- What is kept in the end is the transaction as the work left it, if it was kept at all.
  obtain ⟨-, leaves⟩ := around_triple outside permits prepared works
  rw [← Site.ensure_eq] at leaves
  refine leaves.mono (fun _ s₁ done => ?_) fun _ since => since.toSame
  obtain ⟨k, committed, -⟩ := done
  obtain ⟨t, claimed, kept, -⟩ := committed.kept
  rw [kept]
  exact claimed

/-- To bring one schema up to date leaves the owners of all other prefixes. -/
lemma ownerEntry_ensure (ledger : e.Ledger) (clear : Clear p s) {site : Site}
    (own : site.tablePrefix = some p) (other : q ≠ p) :
    ownerEntry ledger q (carry site.ensure s).2.world.server.kept =
      ownerEntry ledger q s.world.server.kept := by
  have isolates : Isolates ledger.toTables p s (carry (Scope.around site.upkeep) s) :=
    isolates_around clear.serves own fun _ _ _ upkeeping => upkeeping.ensureWork
  rcases isolates.kept with agree | ⟨-, k, t, offers, begun, -⟩
  · have settings : settingsTable ∈ Ownership.standard.own := by decide +kernel
    have same := agree (some q) (fun eq => other (Option.some.inj eq)) settingsTable settings
    exact congrArg (ledger.stored · tenantKey) same
  · rw [clear.alone k offers] at begun
    cases begun

/-- The connection works for its prefix and for the tenant. -/
lemma site_of_serves (serves : Serves s.connection p) (tenant : String) :
    (s.connection.site tenant).tablePrefix = some p ∧
      (s.connection.site tenant).tenant = some tenant := by
  refine ⟨?_, rfl⟩
  change s.connection.lease.map (·.tablePrefix) = some p
  rw [serves.lease]
  rfl

/-- A call that succeeds leaves the tenant the owner of the prefix, who was nobody's before or the
tenant's. -/
lemma owned_of_claimed {site : Site} {old new : Option SettingEntry}
    (known : old = none ∨ ∃ owner, Owned old owner) (own : site.tablePrefix = some p)
    (name : site.tenant = some tenant) (claimed : site.Claimed old new) :
    Owned new tenant ∧ ∀ owner, Owned old owner → owner = tenant := by
  rcases claimed with ⟨rfl, is⟩ | ⟨p', tenant', own', name', none, written⟩
  · have is := is p tenant own name
    rcases known with rfl | ⟨owner, owned⟩
    · cases is
    · have same : owner = tenant := by
        have eq := (owned site).symm.trans is
        cases eq
        rfl
      exact ⟨same ▸ owned, fun owner' owned' => (owned'.unique owned).trans same⟩
  -- The entry was written, so it said nothing before; as it was nobody's or somebody's, it was not there.
  · obtain rfl : tenant' = tenant := Option.some.inj (name'.symm.trans name)
    have nobody (owner : String) : ¬ Owned old owner := fun owned => by
      have eq := (owned site).symm.trans none
      cases eq
    rcases known with rfl | ⟨owner, owned⟩
    · exact ⟨fun _ => Site.decode_written_blank trivial written,
        fun owner owned => absurd owned (nobody owner)⟩
    · exact absurd owned (nobody owner)

end Calls

/-! ## Whole runs -/

/-- What is known after some calls: each prefix has nobody or is somebody's, and whoever succeeded for it
is the owner. -/
structure Settles (ledger : e.Ledger) (calls : List (Call e)) (s : State e) : Prop where
  known : ∀ p, ownerEntry ledger p s.kept = none ∨
    ∃ tenant, Owned (ownerEntry ledger p s.kept) tenant
  owned : ∀ x ∈ calls, x.Succeeds → Owned (ownerEntry ledger x.tablePrefix s.kept) x.tenant

/-- Owners are settled by one more call. -/
lemma Settles.call {calls : List (Call e)} {s : Scene (State e)}
    (h : Settles ledger calls s.world.server) (clear : Clear p s) (tenant : String) :
    Settles ledger (.ofScene p tenant s :: calls) (Call.ofScene p tenant s).after := by
  obtain ⟨own, name⟩ := site_of_serves clear.serves tenant
  have claims := claims_ensure ledger clear (s.connection.site tenant)
  have others (q : TablePrefix) (other : q ≠ p) :
      ownerEntry ledger q (Call.ofScene p tenant s).after.kept =
        ownerEntry ledger q s.world.server.kept := ownerEntry_ensure ledger clear own other
  -- A call that fails changes nothing; one that succeeds changes the entry of its own prefix at most, and
  -- only from nobody's to the tenant's.
  rcases done : carry (s.connection.site tenant).ensure s with ⟨failure | outcome, s₁⟩
  · have after : (Call.ofScene p tenant s).after = s₁.world.server := by rw [Call.ofScene, done]
    have failed : ¬ (Call.ofScene p tenant s).Succeeds := by
      rintro ⟨outcome, eq⟩
      rw [Call.ofScene, done] at eq
      cases eq
    rw [done] at claims
    have same : State.Same s.world.server s₁.world.server := claims
    rw [after]
    refine ⟨?_, ?_⟩
    · rw [same.kept]
      exact h.known
    · rw [same.kept]
      intro x mem succeeds
      rcases List.mem_cons.1 mem with rfl | mem
      · exact absurd succeeds failed
      · exact h.owned x mem succeeds
  · have after : (Call.ofScene p tenant s).after = s₁.world.server := by rw [Call.ofScene, done]
    rw [done] at claims
    obtain ⟨owned, only⟩ := owned_of_claimed (h.known p) own name claims
    rw [after] at others ⊢
    refine ⟨fun q => ?_, fun x mem succeeds => ?_⟩
    · by_cases same : q = p
      · subst same
        exact .inr ⟨tenant, owned⟩
      · rw [others q same]
        exact h.known q
    · rcases List.mem_cons.1 mem with rfl | mem
      · exact owned
      · have before := h.owned x mem succeeds
        by_cases same : x.tablePrefix = p
        · rw [same] at before ⊢
          rw [only _ before]
          exact owned
        · rw [others _ same]
          exact before

/-- It is known after every run. -/
theorem Run.settles {calls : List (Call e)} {s : State e} (run : Run ledger calls s) :
    Settles ledger calls s := by
  induction run with
  | start known => exact ⟨known, by simp⟩
  | other run same ih =>
    refine ⟨fun p => ?_, fun x mem succeeds => ?_⟩
    · rw [same]
      exact ih.known p
    · rw [same]
      exact ih.owned x mem succeeds
  | call run p tenant clear ih => exact ih.call clear tenant

/-- A call for a prefix that is another tenant's fails and changes nothing. -/
lemma Settles.refuses {calls : List (Call e)} {s : Scene (State e)}
    (h : Settles ledger calls s.world.server) (clear : Clear p s) {tenant owner : String}
    (owned : Owned (ownerEntry ledger p s.world.server.kept) owner) (other : owner ≠ tenant) :
    (Call.ofScene p tenant s).Fails ∧
      State.Same (Call.ofScene p tenant s).before (Call.ofScene p tenant s).after := by
  obtain ⟨own, name⟩ := site_of_serves clear.serves tenant
  have claims := claims_ensure ledger clear (s.connection.site tenant)
  rcases done : carry (s.connection.site tenant).ensure s with ⟨failure | outcome, s₁⟩
  · rw [done] at claims
    rw [Call.ofScene, done]
    exact ⟨⟨failure, rfl⟩, claims⟩
  · rw [done] at claims
    obtain ⟨-, only⟩ := owned_of_claimed (h.known p) own name claims
    exact absurd (only owner owned) other

/-- The prefix of the rehearsed database is Ada's, and other prefixes have nobody. -/
lemma known_upkept (q : TablePrefix) :
    ownerEntry (databaseLedger fun _ _ => .accept) q upkept.world.server.kept = none ∨
      ∃ tenant, Owned (ownerEntry (databaseLedger fun _ _ => .accept) q upkept.world.server.kept)
        tenant := by
  have entry : ownerEntry (databaseLedger fun _ _ => .accept) q upkept.world.server.kept =
      (upkept.world.server.kept.setting? (q.apply settingsTable) tenantKey).map storedEntry :=
    databaseEntry_eq ..
  rw [entry]
  by_cases mine : q.apply settingsTable = "ada_metadata"
  · rw [mine]
    have written : Written true (Json.str "Ada") none
        ((upkept.world.server.kept.setting? "ada_metadata" tenantKey).map storedEntry) :=
      ⟨_, rfl, rfl, _, rfl, ofBytes_document (Json.parse_str _)⟩
    exact .inr ⟨"Ada", fun _ => Site.decode_written_blank trivial written⟩
  · refine .inl ?_
    have absent : upkept.world.server.kept.settings.lookup (q.apply settingsTable) = none :=
      List.lookup_eq_none_iff.2 (by simpa [upkept] using mine)
    unfold Database.setting?
    rw [absent]
    rfl

/-- In a database a prefix is one tenant's: all who succeed for it are the same tenant, and whoever comes
after one who succeeded, with another name that leads to the prefix, fails and changes nothing. -/
theorem Run.one_tenant {calls : List (Call e)} {s : State e} (run : Run ledger calls s) :
    (∀ x ∈ calls, ∀ y ∈ calls, x.Succeeds → y.Succeeds → x.tablePrefix = y.tablePrefix →
      x.tenant = y.tenant) ∧
    calls.Pairwise fun later earlier => earlier.Succeeds →
      earlier.tablePrefix = later.tablePrefix → earlier.tenant ≠ later.tenant →
      later.Fails ∧ State.Same later.before later.after := by
  refine ⟨fun x memx y memy succeedsx succeedsy same => ?_, ?_⟩
  · have ownedx := run.settles.owned x memx succeedsx
    have ownedy := run.settles.owned y memy succeedsy
    rw [same] at ownedx
    exact ownedx.unique ownedy
  -- By induction on the run: each call is compared with those before it when it is made.
  · induction run with
    | start known => exact .nil
    | other run same ih => exact ih
    | call run p tenant clear ih =>
      refine .cons (fun earlier mem succeeds same other => ?_) ih
      have owned := run.settles.owned earlier mem succeeds
      rw [same] at owned
      exact run.settles.refuses clear owned other

/-- Ada's schema is kept up with documents, and then, after all have logged in anew, somebody without
documents wants it for ada. -/
theorem Run.one_tenant_collision :
    let p : TablePrefix := ⟨"ada_", by decide⟩
    let ledger := databaseLedger fun _ _ => .accept
    let plain := { upkept.connection with
      address := { upkept.connection.address with options := [("use_jsonb", "false")] } }
    let first := Call.ofScene p "Ada" upkept
    let anew := { first.after with sessions := fun _ => {} }
    let second := Call.ofScene p "ada" ⟨plain, { upkept.world with server := anew }⟩
    TablePrefix.ofName "Ada" = .ok p ∧ TablePrefix.ofName "ada" = .ok p ∧
      Run ledger [second, first] second.after ∧ first.Succeeds ∧
      second.Fails ∧ State.Same second.before second.after := by
  intro p ledger plain first anew second
  have succeeds : first.Succeeds := by
    obtain ⟨s₁, done, -⟩ := ensure_upkept
    refine ⟨.upToDate, ?_⟩
    change (carry (upkept.connection.site "Ada").ensure upkept).1 = _
    rw [done]
  have once : Run ledger [first] first.after :=
    Run.call (.start known_upkept) p "Ada" ⟨⟨rfl, fun _ mem => mem⟩, rfl, fun _ _ => rfl⟩
  have quiet : Run ledger [first] anew := once.other fun _ => rfl
  have run : Run ledger [second, first] second.after :=
    Run.call (s := ⟨plain, { upkept.world with server := anew }⟩) quiet p "ada"
      ⟨⟨rfl, fun _ mem => mem⟩, rfl, fun _ _ => rfl⟩
  obtain ⟨refuses, -⟩ := List.pairwise_cons.1 run.one_tenant.2
  have other : first.tenant ≠ second.tenant := by
    change "Ada" ≠ "ada"
    decide
  have refused := refuses first (by simp) succeeds rfl other
  exact ⟨by decide +kernel, by decide +kernel, run, succeeds, refused⟩

end Tenancy.Schema
