import Tenancy.Proofs.Schema.Catalogue
import Tenancy.Proofs.Schema.Granting
import Tenancy.Proofs.Schema.Harmless
import Tenancy.Proofs.Schema.Version

/-!
# How the upkeep of a schema decides

Where no request of the upkeep is refused, it is decided by what the connection sees when it begins whether
the schema is created, upgraded, found up to date or not touched (`Site.Decides`), and by the entry of the
owner whether the decision stands (`Site.Concludes`). `concludes_ensure` is assembled from what its parts come
to: the upkeep does not fail by itself while it builds and writes (`Obliging`), and what it asks is answered
from the data of its transaction (`decides_bringUpToDate`, `carry_claim`). With what a success leaves
(`Completed`) it is `ensure_decides`.
-/

namespace Tenancy.Schema
open Connection Engine

/-! ## What is decided -/

/-- The outcome of upkeep before its tenant is looked at: it depends on whether there is a table of settings,
and on the version that its entry holds. -/
structure Site.Decides (s : Site) (found : Prop) (x : Option SettingEntry)
    (r : Except Failure Outcome) : Prop where
  created : r = .ok .created ↔ ¬ found
  upToDate : r = .ok .upToDate ↔ found ∧ s.Holds x currentVersion
  upgraded : ∀ n, r = .ok (.upgraded n) ↔ found ∧ s.Holds x n ∧ 0 ≤ n ∧ n < currentVersion
  /-- There is no version to be read, or it is none that is understood. -/
  refused : (∃ fault, r = .error (.schema fault)) ↔
    found ∧ s.Converts x ∧ ∀ n, s.Holds x n → n < 0 ∨ currentVersion < n
  /-- The document of the entry is lost on the way. -/
  lost : (∃ failure, r = .error (.statement failure)) ↔ found ∧ ¬ s.Converts x

/-- Whether the entry of an owner leaves the prefix to the tenant. -/
def Site.Admits (s : Site) (x : Option SettingEntry) : Prop :=
  ∀ p tenant, s.tablePrefix = some p → s.tenant = some tenant →
    s.Says x none ∨ s.Says x (some (.str tenant))

/-- What becomes of a decision when the tenant is looked at: it stands, unless it was a success and the
prefix is not the tenant's. -/
inductive Site.Concludes (s : Site) (owner : Option SettingEntry) (decision : Except Failure Outcome) :
    Except Failure Outcome → Prop where
  | failed {failure : Failure} (failed : decision = .error failure) : s.Concludes owner decision decision
  | admitted (admits : s.Admits owner) : s.Concludes owner decision decision
  | rejected {outcome : Outcome} (succeeded : decision = .ok outcome) (other : ¬ s.Admits owner)
    (failure : Failure) : s.Concludes owner decision (.error failure)

/-- An owner is admitted if none is told, or the same. -/
lemma Site.admits_iff {s : Site} {x : Option SettingEntry} {p : TablePrefix} {tenant : String}
    (own : s.tablePrefix = some p) (name : s.tenant = some tenant) :
    s.Admits x ↔ s.Says x none ∨ s.Says x (some (.str tenant)) := by
  refine ⟨fun admits => admits p tenant own name, fun left p' tenant' own' name' => ?_⟩
  obtain rfl := Option.some.inj (name.symm.trans name')
  exact left

section Decides
variable {s : Site} {found : Prop} {x : Option SettingEntry} {n : Int}

/-- Without a table the schema is created. -/
lemma Site.Decides.of_absent (absent : ¬ found) : s.Decides found x (.ok .created) where
  created := iff_of_true rfl absent
  upToDate := iff_of_false (by simp) fun h => absent h.1
  upgraded _ := iff_of_false (by simp) fun h => absent h.1
  refused := iff_of_false (by simp) fun h => absent h.1
  lost := iff_of_false (by simp) fun h => absent h.1

/-- With the current version it is up to date. -/
lemma Site.Decides.of_current (there : found) (holds : s.Holds x currentVersion) :
    s.Decides found x (.ok .upToDate) where
  created := iff_of_false (by simp) fun h => h there
  upToDate := iff_of_true rfl ⟨there, holds⟩
  upgraded n := iff_of_false (by simp) fun h => by
    have same := holds.unique h.2.1
    omega
  refused := iff_of_false (by simp) fun h => by
    have outside := h.2.2 _ holds
    unfold currentVersion at outside
    omega
  lost := iff_of_false (by simp) fun h => h.2 holds.converts

/-- With an older version it is upgraded. -/
lemma Site.Decides.of_older (there : found) (holds : s.Holds x n) (sign : 0 ≤ n)
    (older : n < currentVersion) : s.Decides found x (.ok (.upgraded n)) where
  created := iff_of_false (by simp) fun h => h there
  upToDate := iff_of_false (by simp) fun h => by
    have same := holds.unique h.2
    omega
  upgraded m := by
    refine ⟨fun eq => ?_, fun h => ?_⟩
    · cases eq
      exact ⟨there, holds, sign, older⟩
    · rw [holds.unique h.2.1]
  refused := iff_of_false (by simp) fun h => by
    have outside := h.2.2 n holds
    omega
  lost := iff_of_false (by simp) fun h => h.2 holds.converts

/-- With any other version that can be converted it is faulty. -/
lemma Site.Decides.of_fault (there : found) (converts : s.Converts x)
    (outside : ∀ n, s.Holds x n → n < 0 ∨ currentVersion < n) (fault : SchemaFault) :
    s.Decides found x (.error (.schema fault)) where
  created := iff_of_false (by simp) fun h => h there
  upToDate := iff_of_false (by simp) fun h => by
    have beyond := outside _ h.2
    unfold currentVersion at beyond
    omega
  upgraded n := iff_of_false (by simp) fun h => by
    have beyond := outside n h.2.1
    omega
  refused := iff_of_true ⟨fault, rfl⟩ ⟨there, converts, outside⟩
  lost := iff_of_false (by simp) fun h => h.2 converts

/-- With one that cannot be converted the statement fails. -/
lemma Site.Decides.of_lost (there : found) (lost : ¬ s.Converts x) (failure : StatementFailure) :
    s.Decides found x (.error (.statement failure)) where
  created := iff_of_false (by simp) fun h => h there
  upToDate := iff_of_false (by simp) fun h => lost h.2.converts
  upgraded _ := iff_of_false (by simp) fun h => lost h.2.1.converts
  refused := iff_of_false (by simp) fun h => lost h.2.1
  lost := iff_of_true ⟨failure, rfl⟩ ⟨there, lost⟩

end Decides

/-! ## What the parts come to -/

section Parts
variable {e : Engine} {c : Connection} {k : Client} {start : State e} {base : List (String × e.Data)}
  {P : e.Data → Prop} {d : e.Data} {site : Site} {s : Scene (State e)} (held : c.client? = some k)
  (inside : c.inTransaction = true) (legible : Legible c) (ledger : e.Ledger)
  (like : c.Like s.connection)
include held inside legible like

/-- Where the question for a setting is granted, it is answered with what the entry says. -/
lemma carry_setting {key : String} {x : Option SettingEntry}
    (known : ∀ d, P d → ledger.Has c d ∧ ledger.entry c d key = x)
    (now : Underway start base k P s.world.server) (granted : Granted (site.setting? key) s) :
    ∃ s₁, carry (site.setting? key) s = (site.decode key x, s₁) ∧ c.Like s₁.connection ∧
      Underway start base k P s₁.world.server := by
  let f : Footing e c := underway start base held inside
  rw [Site.setting?_eq] at granted ⊢
  have asks : Talk.Triple c (f.good P) (site.query key)
      (fun told => f.good fun d => P d ∧ site.decode key (ledger.entry c d key) = told) f.bad :=
    f.triple_query legible ledger fun d hd => (known d hd).1
  obtain ⟨told, s₁, asked, like₁, now₁⟩ :=
    asks.granted (site.obliging_query key) (granted_bind.1 granted).1 like now
  obtain ⟨d, hd, told'⟩ := f.exists_data now₁
  refine ⟨s₁, ?_, like₁, f.mono (fun d h => h.1) _ now₁⟩
  rw [carry_bind, asked, ← (known d hd).2, told']
  rfl

omit held inside legible like in
/-- The version is what the setting says. -/
lemma carry_version_of_setting {x : Option SettingEntry} {s₁ : Scene (State e)}
    (asked : carry (site.setting? versionKey) s = (site.decode versionKey x, s₁)) :
    carry site.version s = (site.versionIn x, s₁) := by
  rw [Site.version, carry_bind, asked, Site.versionIn]
  cases site.decode versionKey x with
  | error failure => rfl
  | ok v => rfl

/-- The version is what its entry holds. -/
lemma carry_version {x : Option SettingEntry}
    (known : ∀ d, P d → ledger.Has c d ∧ ledger.entry c d versionKey = x)
    (now : Underway start base k P s.world.server) (granted : Granted site.version s) :
    ∃ s₁, carry site.version s = (site.versionIn x, s₁) := by
  obtain ⟨s₁, asked, -⟩ := carry_setting held inside legible ledger like known now
    (granted_bind.1 granted).1
  exact ⟨s₁, carry_version_of_setting asked⟩

/-- Bringing a schema up to date is decided by the data that it finds. -/
theorem decides_bringUpToDate (now : Underway start base k (· = d) s.world.server)
    (granted : Granted site.bringUpToDate s) :
    site.Decides (ledger.Has c d) (ledger.entry c d versionKey) (carry site.bringUpToDate s).1 := by
  let f : Footing e c := underway start base held inside
  obtain ⟨asks, rest⟩ := granted_bind.1 granted
  obtain ⟨found, s₁, asked, like₁, now₁⟩ :=
    (f.triple_tableExists (P := (· = d)) ledger).granted (.request _) asks like now
  have answer : ledger.Has c d ↔ found := by
    obtain ⟨d', rfl, answer⟩ := f.exists_data now₁
    exact answer
  have going := rest found s₁ asked
  rw [Site.bringUpToDate, carry_bind, asked]
  dsimp only
  cases found with
  | false =>
    rw [if_neg Bool.false_ne_true] at going ⊢
    rw [Site.carry_built site.obliging_createTables going]
    exact .of_absent (by simpa using answer)
  | true =>
    have there : ledger.Has c d := answer.2 rfl
    rw [if_pos rfl] at going ⊢
    obtain ⟨s₂, read⟩ := carry_version held inside legible ledger like₁
      (P := fun d' => d' = d ∧ (ledger.Has c d' ↔ true = true))
      (x := ledger.entry c d versionKey) (fun d' h => by obtain ⟨rfl, -⟩ := h; exact ⟨there, rfl⟩) now₁
      (granted_bind.1 going).1
    have rest := (granted_bind.1 going).2
    rw [carry_bind, read]
    rcases site.versionIn_cases (ledger.entry c d versionKey) with
      ⟨n, holds, sign, version⟩ | ⟨converts, negative, fault, version⟩ | ⟨lost, failure, version⟩
    · have going := rest n s₂ (by rw [read, version])
      rw [version]
      dsimp only
      by_cases newer : currentVersion < n
      · rw [if_pos newer]
        refine .of_fault there holds.converts (fun m holds' => ?_) _
        rw [← holds.unique holds']
        exact .inr newer
      · rw [if_neg newer] at going ⊢
        by_cases older : n < currentVersion
        · rw [if_pos older] at going ⊢
          rw [Site.carry_built site.obliging_upgrade going]
          exact .of_older there holds sign older
        · rw [if_neg older]
          obtain rfl : n = currentVersion := by omega
          exact .of_current there holds
    · rw [version]
      exact .of_fault there converts (fun n holds => .inl (negative n holds)) fault
    · rw [version]
      exact .of_lost there lost failure

/-- The claim succeeds where the prefix is left to the tenant. -/
theorem carry_claim {owner : Option SettingEntry}
    (now : Underway start base k (Current ledger c site owner) s.world.server)
    (granted : Granted site.claim s) :
    (site.Admits owner ∧ (carry site.claim s).1 = .ok ()) ∨
      (¬ site.Admits owner ∧ ∃ failure, (carry site.claim s).1 = .error failure) := by
  unfold Site.claim at granted ⊢
  split
  · next p tenant own name =>
    rw [own, name] at granted
    have asks := granted_bind.1 granted
    obtain ⟨s₁, asked, -⟩ := carry_setting held inside legible ledger like
      (fun d h => ⟨h.has, h.owner⟩) now asks.1
    rw [Site.admits_iff own name, carry_bind, asked]
    cases read : site.decode tenantKey owner with
    | error failure =>
      refine .inr ⟨fun left => ?_, failure, rfl⟩
      rcases left with said | said
      · cases read.symm.trans (said.read tenantKey)
      · cases read.symm.trans (said.read tenantKey)
    | ok v =>
      have said := Site.says_of_decode_eq read
      have going := asks.2 v s₁ (by rw [asked, read])
      cases v with
      | none =>
        obtain ⟨u, s₂, written⟩ := (site.obliging_setSetting tenantKey (.str tenant)).carry going
        refine .inl ⟨.inl said, ?_⟩
        dsimp only
        rw [written]
      | some v =>
        have other (differs : v ≠ .str tenant) : ¬ (site.Says owner none ∨
            site.Says owner (some (.str tenant))) := by
          rintro (said' | said')
          · cases said.unique said'
          · cases said.unique said'
            exact differs rfl
        cases v with
        | str name' =>
          dsimp only
          by_cases same : name' = tenant
          · subst same
            rw [if_pos rfl]
            exact .inl ⟨.inr said, rfl⟩
          · rw [if_neg same]
            exact .inr ⟨other (fun eq => same (Json.str.inj eq)), _, rfl⟩
        | _ => exact .inr ⟨other (by simp), _, rfl⟩
  · next none =>
    refine .inl ⟨fun p tenant own name => (none p tenant own name).elim, rfl⟩

/-- The upkeep as a whole comes to what is decided, unless the prefix is not the tenant's. -/
theorem concludes_upkeep (now : Underway start base k (· = d) s.world.server)
    (granted : Granted site.upkeep s) :
    ∃ decision, site.Decides (ledger.Has c d) (ledger.entry c d versionKey) decision ∧
      site.Concludes (ledger.entry c d tenantKey) decision (carry site.upkeep s).1 := by
  let f : Footing e c := underway start base held inside
  obtain ⟨locks, rest⟩ := granted_bind.1 granted
  obtain ⟨u, s₁, locked, like₁, now₁⟩ :=
    (f.triple_lock (P := (· = d)) legible ledger _).granted (Site.obliging_lock _) locks like now
  have going := granted_bind.1 (rest u s₁ locked)
  have decides := decides_bringUpToDate held inside legible ledger like₁ now₁ going.1
  have owner : Underway start base k (fun d' => ledger.entry c d' tenantKey = ledger.entry c d tenantKey)
      s₁.world.server := f.mono (fun d' eq => by rw [eq]) _ now₁
  obtain ⟨like₂, left⟩ := triple_bringUpToDate held inside legible ledger _ s₁ like₁ owner
  rw [Site.upkeep, carry_bind, locked]
  dsimp only
  rw [carry_bind]
  rcases brought : carry site.bringUpToDate s₁ with ⟨failure | outcome, s₂⟩
  · rw [brought] at decides
    exact ⟨_, decides, .failed rfl⟩
  · rw [brought] at decides like₂ left
    have claims := (granted_bind.1 (going.2 outcome s₂ brought)).1
    refine ⟨_, decides, ?_⟩
    dsimp only
    rw [carry_bind]
    have claim := carry_claim (s := s₂) held inside legible ledger like₂ left claims
    rcases done : carry site.claim s₂ with ⟨failure | u, s₃⟩
    · rw [done] at claim
      rcases claim with ⟨-, claimed⟩ | ⟨other, -⟩
      · cases claimed
      · exact .rejected rfl other failure
    · rw [done] at claim
      rcases claim with ⟨admits, -⟩ | ⟨-, failure, claimed⟩
      · exact .admitted admits
      · cases claimed

end Parts

/-! ## The upkeep of a schema -/

/-- What the upkeep of a schema leaves where it succeeds. -/
structure Completed {e : Engine} (catalogue : e.Catalogue) (site : Site) (outcome : Outcome)
    (s s₁ : Scene (State e)) : Prop where
  /-- The version is there for the next time. -/
  version : Sees (fun d => site.Holds (catalogue.entry s.connection d versionKey) currentVersion) s₁
  complete : outcome ≠ .upToDate → Sees (catalogue.Complete s.connection) s₁
  harmless : outcome = .upToDate → State.Hears Harmless s.world.server s₁.world.server

variable {e : Engine} {s : Scene (State e)} {d : e.Data}

/-- A schema that was brought up to date has been so completely. -/
lemma completed_ensure (catalogue : e.Catalogue) (site : Site) (lucid : Lucid s.connection)
    {outcome : Outcome} {s₁ : Scene (State e)} (done : carry site.ensure s = (.ok outcome, s₁)) :
    Completed catalogue site outcome s s₁ := by
  have kin : s.connection.Kin s₁.connection := by
    have kept := Kin.carry site.ensure s
    rwa [done] at kept
  refine ⟨?_, sees_complete catalogue lucid done, fun eq => ?_⟩
  · refine (sees_settled lucid.toLegible catalogue.toLedger done).mono fun d settled => ?_
    exact Site.holds_of_versionIn (settled.congr kin.lease.symm).current
  · subst eq
    exact harmless_ensure lucid.toLegible done

/-- Where nothing is refused, the upkeep of a schema comes to what is decided by the data that the connection
sees when it begins. -/
theorem concludes_ensure (ledger : e.Ledger) (site : Site) (legible : Legible s.connection)
    (sees : Sees (· = d) s) (alone : Alone s) (granted : Granted site.ensure s) :
    ∃ decision,
      site.Decides (ledger.Has s.connection d) (ledger.entry s.connection d versionKey) decision ∧
      site.Concludes (ledger.entry s.connection d tenantKey) decision (carry site.ensure s).1 := by
  rw [Site.ensure_eq] at granted ⊢
  obtain ⟨scope, s₁, entered, going, same⟩ := Scope.exists_of_granted_around granted
  have enters := entered_enter legible (sees.stands alone)
  rw [entered] at enters
  obtain ⟨rules, lease, inside, start, base, k, held, now⟩ := enters
  have concludes := concludes_upkeep held inside (legible.congr rules lease) ledger (.refl _) now going
  -- The tables of the connection are the same inside its scope.
  have table : s₁.connection.table = s.connection.table := table_congr lease
  unfold Ledger.Has Ledger.entry at concludes ⊢
  rw [same, ← table]
  exact concludes

/-! ## Ada's schema -/

/-- Ada's connection, which uses documents or not. -/
def ada (documents : Bool) : Connection :=
  let alone := (Scene.rehearsal fun _ _ => .accept).connection
  { alone with
    address := { alone.address with options := if documents then [] else [("use_jsonb", "false")] }
    lease := some ⟨⟨"ada_", sanitized_ada⟩, .standard⟩ }

/-- Her connection to an engine that takes everything and keeps some data. -/
def adaOn (documents : Bool) (d : Database) : Scene (State (Engine.ofDatabase fun _ _ => .accept)) :=
  let alone := Scene.rehearsal fun _ _ => .accept
  { connection := ada documents
    world := { alone.world with server := { alone.world.server with kept := d } } }

/-- A schema whose version was never written. -/
def unversioned : Database := { tables := ["ada_metadata"] }

section Ada
variable (documents : Bool) (d : Database)

/-- Ada's connection is lucid. -/
lemma lucid_ada : Lucid (ada documents) := .of_standard (fun _ mem => mem) fun l lease => by
  cases lease
  rfl

/-- Her table of settings has her prefix. -/
lemma table_ada : (ada documents).table settingsTable = "ada_metadata" := by
  cases documents <;> decide +kernel

/-- Her connection sees what is committed. -/
lemma sees_adaOn : Sees (· = d) (adaOn documents d) := .outside rfl rfl fun _ _ => ⟨rfl, rfl⟩

/-- No client that it can get is in a transaction. -/
lemma alone_adaOn : Alone (adaOn documents d) := fun _ _ _ => rfl

/-- Everything is granted to the upkeep of her schema. -/
lemma granted_adaOn : Granted ((ada documents).site "Ada").ensure (adaOn documents d) := by
  have serves : Serves (ada documents) ⟨"ada_", sanitized_ada⟩ := ⟨rfl, fun _ mem => mem⟩
  refine granted_ensure (databaseArchive _) ⟨fun _ _ _ => rfl, fun _ _ => ⟨rfl, rfl⟩, fun _ pooled => ?_⟩
    rfl (lucid_ada documents).toLegible (sendable_database serves rfl)
  cases pooled

variable {documents d}

/-- What is decided about her schema is done, if nobody owns its prefix. -/
lemma outcome_adaOn {outcome : Outcome}
    (unowned : (databaseLedger fun _ _ => .accept).entry (ada documents) d tenantKey = none)
    (decided : ∀ r, ((ada documents).site "Ada").Decides
      ((databaseLedger fun _ _ => .accept).Has (ada documents) d)
      ((databaseLedger fun _ _ => .accept).entry (ada documents) d versionKey) r → r = .ok outcome) :
    ∃ s₁, carry ((ada documents).site "Ada").ensure (adaOn documents d) = (.ok outcome, s₁) := by
  obtain ⟨decision, decides, concludes⟩ := concludes_ensure (databaseLedger _)
    ((ada documents).site "Ada") (lucid_ada documents).toLegible (sees_adaOn documents d)
    (alone_adaOn documents d) (granted_adaOn documents d)
  rw [decided decision decides] at concludes
  change ((ada documents).site "Ada").Concludes _ _ (carry _ (adaOn documents d)).1 at concludes
  have admits : ((ada documents).site "Ada").Admits
      ((databaseLedger fun _ _ => .accept).entry (ada documents) d tenantKey) := by
    rw [unowned]
    exact fun _ _ _ _ => .inl .absent
  rcases carried : carry ((ada documents).site "Ada").ensure (adaOn documents d) with ⟨result, s₁⟩
  rw [carried] at concludes
  cases concludes with
  | failed failed => cases failed
  | admitted => exact ⟨s₁, rfl⟩
  | rejected _ other => exact absurd admits other

variable (documents)

/-- Where there is nothing, her schema is created. -/
lemma created_ada :
    ∃ s₁, carry ((ada documents).site "Ada").ensure (adaOn documents {}) = (.ok .created, s₁) := by
  refine outcome_adaOn rfl fun r decides => decides.created.2 fun has => ?_
  unfold Ledger.Has at has
  rw [table_ada] at has
  cases has

/-- Where its version was never written, it is upgraded. -/
lemma upgraded_ada :
    ∃ s₁, carry ((ada documents).site "Ada").ensure (adaOn documents unversioned) =
      (.ok (.upgraded 0), s₁) := by
  refine outcome_adaOn rfl fun r decides => (decides.upgraded 0).2 ⟨?_, ?_, le_refl _, by decide⟩
  · unfold Ledger.Has
    rw [table_ada]
    rfl
  · exact ⟨none, .absent, .absent⟩

end Ada

/-! ## The upkeep as a whole -/

/-- Where nothing is refused, the upkeep of a schema does what is decided by the data that the connection
sees: by whether there is a table of settings under its name, by the version that is stored there, and then
by whether the prefix is left to the tenant. Whenever it succeeds the version that is stored is the current
one; if there was something to do every table is there, and if there was not, nothing was sent that builds a
schema or writes its version. -/
theorem ensure_decides (catalogue : e.Catalogue) (site : Site) (lucid : Lucid s.connection)
    (sees : Sees (· = d) s) (alone : Alone s) (granted : Granted site.ensure s) :
    (∃ decision,
      site.Decides (catalogue.Has s.connection d) (catalogue.entry s.connection d versionKey) decision ∧
      site.Concludes (catalogue.entry s.connection d tenantKey) decision (carry site.ensure s).1) ∧
    ∀ outcome s₁, carry site.ensure s = (.ok outcome, s₁) → Completed catalogue site outcome s s₁ :=
  ⟨concludes_ensure catalogue.toLedger site lucid.toLegible sees alone granted,
    fun _ _ done => completed_ensure catalogue site lucid done⟩

/-- Ada's schema is created, with documents and without them, and upgraded. -/
theorem ensure_decides_ada :
    let catalogue := databaseCatalogue fun _ _ => .accept
    let Decided (documents : Bool) (d : Database) (outcome : Outcome) : Prop :=
      let s := adaOn documents d
      let site := s.connection.site "Ada"
      Lucid s.connection ∧ Sees (· = d) s ∧ Alone s ∧ Granted site.ensure s ∧
      ((∃ decision,
        site.Decides (catalogue.Has s.connection d) (catalogue.entry s.connection d versionKey) decision ∧
        site.Concludes (catalogue.entry s.connection d tenantKey) decision (carry site.ensure s).1) ∧
      ∀ outcome s₁, carry site.ensure s = (.ok outcome, s₁) → Completed catalogue site outcome s s₁) ∧
      (carry site.ensure s).1 = .ok outcome
    (Decided true {} .created ∧ Decided false {} .created) ∧
      Decided true unversioned (.upgraded 0) ∧ Decided false unversioned (.upgraded 0) := by
  intro catalogue Decided
  have decided {documents : Bool} {d : Database} {outcome : Outcome}
      (done : ∃ s₁, carry ((ada documents).site "Ada").ensure (adaOn documents d) =
        (.ok outcome, s₁)) : Decided documents d outcome := by
    obtain ⟨s₁, done⟩ := done
    have granted := granted_adaOn documents d
    exact ⟨lucid_ada documents, sees_adaOn documents d, alone_adaOn documents d, granted,
      ensure_decides catalogue _ (lucid_ada documents) (sees_adaOn documents d)
        (alone_adaOn documents d) granted, congrArg Prod.fst done⟩
  exact ⟨⟨decided (created_ada true), decided (created_ada false)⟩,
    decided (upgraded_ada true), decided (upgraded_ada false)⟩

/-! ## Documents that are lost -/

/-- Where nothing else stands in the way, the upkeep of a schema outside of transactions fails with what
keeps its version from being read. -/
lemma ensure_unread {ledger : e.Ledger} {site : Site} {failure : Failure} (ready : Ready s)
    (flag : s.connection.inTransaction = false) (legible : Legible s.connection)
    (has : ledger.Has s.connection s.world.server.kept)
    (unread : site.versionIn (ledger.entry s.connection s.world.server.kept versionKey) =
      .error failure) : (carry site.ensure s).1 = .error failure := by
  obtain ⟨u, s₁, k, begun, ⟨channel, connection⟩, -, held, inside, now⟩ := begin_steadfast ready flag
  have table : s₁.connection.table = s.connection.table := table_congr (by rw [connection])
  have legible : Legible s₁.connection := legible.congr (by rw [connection]) (by rw [connection])
  unfold Ledger.Has at has
  unfold Ledger.entry at unread
  rw [← table] at has unread
  let f := steadfast ready.complies held inside (· = [])
  -- Each question is answered from the data that were kept, up to the one for the version.
  obtain ⟨u₁, s₂, locked, like, now⟩ :=
    (f.triple_lock (P := (· = s.world.server.kept)) legible ledger site.prefixLock).succeeds
      (.refl _) now
  obtain ⟨found, s₃, asked, like, now⟩ := (f.triple_tableExists ledger).succeeds like now
  obtain ⟨d, ⟨rfl, answer⟩⟩ := f.exists_data now
  obtain rfl : found = true := answer.1 has
  let P (d' : e.Data) : Prop := d' = s.world.server.kept ∧ (ledger.Has s₁.connection d' ↔ true = true)
  have answers : Talk.Triple s₁.connection (f.good P) (site.query versionKey)
      (fun told => f.good fun d' =>
        P d' ∧ site.decode versionKey (ledger.entry s₁.connection d' versionKey) = told) f.bad := by
    refine f.triple_query legible ledger fun d' h => ?_
    rw [h.1]
    exact has
  obtain ⟨told, s₄, queried, -, now⟩ := answers.succeeds like now
  have told : told = site.decode versionKey (ledger.entry s₁.connection s.world.server.kept versionKey) := by
    obtain ⟨d', ⟨rfl, -⟩, told⟩ := f.exists_data now
    exact told.symm
  have setting : carry (site.setting? versionKey) s₃ =
      (site.decode versionKey (ledger.entry s₁.connection s.world.server.kept versionKey), s₄) := by
    rw [Site.setting?_eq, carry_bind, queried, told]
    rfl
  have brought : carry site.bringUpToDate s₂ = (.error failure, s₄) := by
    have version := (carry_version_of_setting setting).trans (congrArg (·, s₄) unread)
    rw [Site.bringUpToDate, carry_bind, asked]
    dsimp only
    rw [if_pos rfl, carry_bind, version]
  have worked : carry site.upkeep s₁ = (.error failure, s₄) := by
    rw [Site.upkeep, carry_bind, locked]
    dsimp only
    rw [carry_bind, brought]
  rw [Site.ensure_eq, Scope.carry_around, Scope.carry_enter_outside flag, begun]
  dsimp only [Except.map]
  rw [worked]

/-- A schema whose version is a number that is too large to be converted. -/
def unread : Scene (State (Engine.ofDatabase fun _ _ => .accept)) :=
  let alone := Scene.rehearsal fun _ _ => .accept
  { alone with
    world := { alone.world with
      server := { alone.world.server with
        kept :=
          { tables := [settingsTable]
            settings := [(settingsTable,
              [(versionKey, { document := some "1e999", bytes := some [49] })])] } } } }

/-- It holds no version, and the engine refuses nothing; the upkeep fails, but not with the state of the
schema. -/
theorem ensure_decides_unread :
    let s := unread
    let site := s.connection.site
    let d := s.world.server.kept
    let catalogue := databaseCatalogue fun _ _ => .accept
    s.world.server.Complies ∧ Lucid s.connection ∧ Sees (· = d) s ∧ Alone s ∧
      catalogue.Has s.connection d ∧
      (∀ n, ¬ site.Holds (catalogue.entry s.connection d versionKey) n) ∧
      ∃ failure, (carry site.ensure s).1 = .error (.statement failure) := by
  intro s site d catalogue
  have table : s.connection.table settingsTable = settingsTable := by decide +kernel
  let x : SettingEntry := ⟨some (Wire.document "1e999"), some [49]⟩
  have has : catalogue.Has s.connection d := by
    unfold Ledger.Has
    rw [table]
    rfl
  have there : catalogue.entry s.connection d versionKey = some x := by
    unfold Ledger.entry
    rw [table]
    rfl
  have lost : ¬ site.Converts (some x) := by
    intro converts
    obtain ⟨v, cell⟩ := converts x _ rfl rfl
    have unreadable : Json.parse? "1e999" = none := Option.isNone_iff_eq_none.1 (by decide +kernel)
    rw [ofBytes_text, unreadable] at cell
    cases cell
  have lucid : Lucid s.connection := .of_standard (fun _ mem => mem) fun l lease => by cases lease
  obtain ⟨failure, read⟩ : ∃ failure, site.versionIn (some x) = .error (.statement failure) := by
    rcases site.versionIn_cases (some x) with ⟨n, holds, -⟩ | ⟨converts, -⟩ | ⟨-, failure, read⟩
    · exact absurd holds.converts lost
    · exact absurd converts lost
    · exact ⟨failure, read⟩
  have ready : Ready s :=
    ⟨fun _ _ _ => rfl, fun _ _ => ⟨rfl, rfl⟩, fun number pooled => by cases pooled⟩
  refine ⟨fun _ _ _ => rfl, lucid, .outside rfl rfl fun _ _ => ⟨rfl, rfl⟩, fun _ _ _ => rfl, has,
    fun n holds => ?_, failure, ensure_unread ready rfl lucid.toLegible has ?_⟩
  · rw [there] at holds
    exact lost holds.converts
  · rw [there]
    exact read

end Tenancy.Schema
