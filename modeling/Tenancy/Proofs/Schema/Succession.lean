import Tenancy.Proofs.Schema.VersionCourse

/-!
# The succession of versions

Sessions work on one table of settings: each brings the schema up to date or sets its version, in a
transaction of its own. Bringing it up to date is safe among others of its kind, for the lock of the prefix is
held from before the version is read until it is committed (`secures_ensure`). To set a version takes no lock,
and is safe only while nobody else commits (`secures_advance`). So the version never becomes less if what sets
it is not disturbed (`versions_rise`), and it can become less if two sessions set it side by side
(`version_falls`).
-/

namespace Tenancy.Schema
open Connection Engine Interleaving

/-! ## Calls -/

/-- What a session does about the version, in a transaction of its own. -/
inductive VersionCall where
  | ensure (site : Site)
  | advance (site : Site) (version : Int)

namespace VersionCall

/-- What is asked for in a call. -/
def work : VersionCall → Talk Unit
  | ensure site => do let _ ← site.ensure
  | advance site version => Scope.around (site.advanceVersion version)

/-- Whether a call is about the table of settings of a site, and in the same way as the site. -/
def Concerns (site₀ : Site) : VersionCall → Prop
  | ensure site => site.documents = site₀.documents ∧ site.tablePrefix = site₀.tablePrefix
  | advance site version =>
    site.documents = site₀.documents ∧ site.tablePrefix = site₀.tablePrefix ∧ version ≤ Text.maxInt64

/-- Whether a call sets a version. -/
def Sets (call : VersionCall) : Prop := ∃ site version, call = advance site version

/-- The locks with which others leave a call alone. One that sets a version has none, and relies on others
all the same. -/
def Guards {K : Type} (own : K) : VersionCall → Set K → Prop
  | ensure _, locks => own ∈ locks
  | advance _ _, _ => True

end VersionCall

section Call
variable {K : Type} {α : Type} {hash : String → K} {documents : Bool} {guard : Set K → Prop} {site : Site}

/-- A transaction that has just been opened, or a connection that is lost. -/
inductive Fresh (s : Interleaving.Session (versionStore documents) K) : Prop where
  | lost (closed : s.closed = true) (outside : s.inTransaction = false)
  | inside (inside : s.inTransaction = true) (unwritten : s.work.row = none) (savepoints : s.savepoints = [])

/-- A session that is not lost is in its transaction. -/
lemma Fresh.within {s : Interleaving.Session (versionStore documents) K} (h : Fresh s)
    (opened : s.closed = false) : s.inTransaction = true := by
  cases h with
  | lost closed =>
    rw [closed] at opened
    cases opened
  | inside inside => exact inside

/-- A transaction that was just opened has not written the version, and has no savepoints. -/
lemma Fresh.holds {s : Interleaving.Session (versionStore documents) K} (h : Fresh s)
    (inside : s.inTransaction = true) : s.work.row = none ∧ ∀ x ∈ s.savepoints, False := by
  cases h with
  | lost closed outside =>
    rw [outside] at inside
    cases inside
  | inside inside unwritten savepoints =>
    refine ⟨unwritten, fun x mem => ?_⟩
    rw [savepoints] at mem
    cases mem

/-- It is left alone by others if any locks are enough. -/
lemma Fresh.live {s : Interleaving.Session (versionStore documents) K} (h : Fresh s)
    (any : ∀ locks, guard locks) {kept : Option (Option SettingEntry)} :
    Live guard (Worked documents (Unwritten fun _ => True)) kept s := by
  have holds := h.holds
  cases h with
  | lost closed outside => exact .lost closed outside
  | inside inside =>
    obtain ⟨unwritten, none⟩ := holds inside
    exact .inside inside ⟨any _, fun x mem => (none x mem).elim⟩
      ⟨⟨unwritten, trivial⟩, fun x mem => (none x mem).elim⟩

/-- What is so of sessions only, whatever is kept. -/
lemma Secures.request {r : Request} {P : Interleaving.Session (versionStore documents) K → Prop}
    {Q : r.Answer → Interleaving.Session (versionStore documents) K → Prop} (other : r ≠ .commit)
    (within : ∀ sql ps s, P s → r = .execute sql ps → s.closed = false → s.inTransaction = true)
    (answers : ∀ {kept s free clear a kept' s'}, P s →
      Answers hash free clear kept s r (.ok a) kept' s' → Q a s') :
    Secures hash documents guard (fun _ s => P s) (Procedure.request (I := talking) r)
      fun a _ s => Q a s := by
  refine Regime.Triple.request_ok (Regime.stable_session _ P) (fun a => Regime.stable_session _ (Q a))
    (fun kept s h => ?_) answers
  exact ⟨fun sql ps => within sql ps s h, fun eq => absurd eq other⟩

/-- Outside of a transaction a scope is a transaction of its own. -/
lemma secures_enter :
    Secures (K := K) hash documents guard (fun _ s => s.inTransaction = false) Scope.enter
      fun scope _ s => scope = .transaction ∧ Fresh s := by
  have asks : Secures (K := K) hash documents guard (fun _ s => s.inTransaction = false) Talk.inTransaction
      fun inside _ s => inside = false ∧ s.inTransaction = false := by
    refine .request (by simp) (fun _ _ _ _ eq => by cases eq) fun outside answered => ?_
    cases answered with
    | inTransaction => exact ⟨outside, outside⟩
  have begins : Secures (K := K) hash documents guard (fun _ s => s.inTransaction = false) Talk.begin
      fun _ _ s => Fresh s := by
    refine .request (by simp) (fun _ _ _ _ eq => by cases eq) fun outside answered => ?_
    cases answered with
    | begin => exact .inside rfl rfl rfl
    | beginAgain inside =>
      rw [outside] at inside
      cases inside
  refine asks.bind fun inside => ?_
  cases inside with
  | true => exact fun _ _ never => by cases never.1
  | false =>
    refine (begins.strengthen fun _ _ h => h.2).bind fun _ => ?_
    exact .pure (Regime.stable_session _ _) fun _ _ fresh => ⟨rfl, fresh⟩

/-- Work in a transaction of its own is committed if no version becomes less by that, and undone if it
fails. -/
lemma secures_around {p : Talk α}
    (work : Secures (K := K) hash documents guard (fun _ s => Fresh s) p
      fun _ => Live guard (Worked documents (Rising documents))) :
    Secures (K := K) hash documents guard (fun _ s => s.inTransaction = false) (Scope.around p)
      fun _ _ _ => True := by
  refine secures_enter.bind fun scope => ?_
  have commits : Secures (K := K) hash documents guard (Live guard (Worked documents (Rising documents)))
      Talk.commit fun _ _ _ => True := by
    refine .request_ok stable_live (fun _ => Regime.stable_session _ fun _ => True) (fun kept s live => ?_)
      fun _ _ => trivial
    refine ⟨fun _ _ eq => (by cases eq), fun _ inside => ?_⟩
    obtain ⟨guards, rising⟩ := live.holds inside
    exact ⟨guards.1, rising.1⟩
  have undoes : Secures (K := K) hash documents guard (fun _ _ => True) Talk.rollback fun _ _ _ => True :=
    .request (by simp) (fun _ _ _ _ eq => by cases eq) fun _ _ => trivial
  have done {β : Type} (result : Except Failure β) :
      Secures (K := K) hash documents guard (fun _ _ => True) (.ofExcept result) fun _ _ _ => True :=
    Regime.Triple.done (Regime.stable_session _ fun _ => True) fun _ _ _ => by
      cases result with
      | ok => trivial
      | error => trivial
  intro kept s ⟨transaction, fresh⟩
  subst transaction
  refine (Regime.Triple.bind work.attempt fun result => ?_) kept s fresh
  cases result with
  | ok a => exact commits.bind fun _ => done (.ok a)
  | error failure => exact Regime.Triple.bind (M := fun _ _ _ => True) (undoes.attempt.weaken
      (fun _ _ _ => trivial) (fun _ _ _ _ => trivial) fun _ _ h => h) fun _ => done (.error failure)

/-! ## Bringing up to date -/

/-- Whether the table was created makes no version less. -/
lemma rising_made (kept : Option (Option SettingEntry)) (w : VersionWork) (made : Bool)
    (h : Rising documents kept w) : Rising documents kept { w with made } := by
  unfold Rising Rises keptVersion at h ⊢
  rwa [join_sight_made]

/-- A lock that is granted in a transaction is held from then on. -/
lemma Secures.lock {key : String} {P : Option (Option SettingEntry) →
      Interleaving.Session (versionStore documents) K → Prop}
    {R : Option (Option SettingEntry) → VersionWork → Prop}
    (stable : (versionRegime documents guard).Stable P)
    (within : ∀ kept s, P kept s → s.closed = false → s.inTransaction = true)
    (takes : ∀ kept s, P kept s → s.inTransaction = true → guard (insert (hash key) s.locks) ∧
      (∀ x ∈ s.savepoints, guard x.locks) ∧ Worked documents R kept s) :
    Secures hash documents guard P (Site.lock key) fun _ => Live guard (Worked documents R) := by
  refine Regime.Triple.bind (M := fun _ => Live guard (Worked documents R))
    (.request_ok stable (fun _ => stable_live) (fun kept s h => ?_)
      fun {kept s free clear a kept' s'} h answered => ?_) fun _ => ?_
  · exact ⟨fun _ _ _ => within kept s h, fun eq => (by cases eq)⟩
  · have inside := within kept s h answered.opened
    obtain ⟨guards, former, worked⟩ := takes kept s h inside
    obtain ⟨reply, rfl, rfl⟩ := Answers.holds answered inside
    exact .inside inside ⟨guards, former⟩ worked
  · exact Secures.pure fun _ _ worked => worked

/-- The lock of the prefix is taken first. -/
lemma secures_prefixLock (key : String) :
    Secures (K := K) hash documents (hash key ∈ ·) (fun _ s => Fresh s) (Site.lock key)
      fun _ => Live (hash key ∈ ·) (Worked documents (Unwritten fun _ => True)) := by
  refine .lock (Regime.stable_session _ Fresh) (fun _ _ fresh => fresh.within) fun kept s fresh inside => ?_
  obtain ⟨unwritten, none⟩ := fresh.holds inside
  refine ⟨Set.mem_insert _ _, fun x mem => (none x mem).elim, ⟨unwritten, trivial⟩, fun x mem => ?_⟩
  exact (none x mem).elim

/-- Another lock changes nothing. -/
lemma secures_lock (isGuard : IsGuard guard) (key : String)
    {R : Option (Option SettingEntry) → VersionWork → Prop} :
    Secures (K := K) hash documents guard (Live guard (Worked documents R)) (Site.lock key)
      fun _ => Live guard (Worked documents R) := by
  refine .lock stable_live (fun _ _ live => live.within) fun kept s live inside => ?_
  obtain ⟨guards, worked⟩ := live.holds inside
  exact ⟨isGuard.insert guards.1, guards.2, worked⟩

section Ensure
variable (isGuard : IsGuard guard)
include isGuard

/-- To build the schema does not write the version. -/
lemma secures_builds {p : Talk α} (asks : Asks site.Builds p)
    {B : Option (Option SettingEntry) → Prop} :
    Secures (K := K) hash documents guard (Live guard (Worked documents (Unwritten B))) p
      fun _ => Live guard (Worked documents (Unwritten B)) :=
  secures_of_asks isGuard (fun _ _ _ h => h) (asks.imp fun _ => plain_of_builds)

/-- Whatever version is found, none becomes less when the schema was brought up to date. -/
lemma secures_bringUpToDate :
    Secures (K := K) hash site.documents guard (Live guard (Worked site.documents (Unwritten fun _ => True)))
      site.bringUpToDate fun _ => Live guard (Worked site.documents (Rising site.documents)) := by
  have writes : Secures (K := K) hash site.documents guard
      (Live guard (Worked site.documents (Unwritten (AtMost site.documents currentVersion))))
      (site.writeVersion currentVersion)
      fun _ => Live guard (Worked site.documents (Rising site.documents)) :=
    (secures_writeVersion (by decide)).knowing fun _ most => ⟨by decide, most⟩
  have returns {R : Option (Option SettingEntry) → VersionWork → Prop} (outcome : Outcome) :
      Secures (K := K) hash site.documents guard (Live guard (Worked site.documents R)) (pure outcome)
        fun _ => Live guard (Worked site.documents R) :=
    .pure fun _ _ h => h
  refine (secures_tableExists _).bind fun found => ?_
  cases found with
  | true =>
    refine (secures_version _).bind fun stored => ?_
    by_cases newer : currentVersion < stored
    · rw [if_pos newer]
      exact Secures.ofExcept fun _ _ _ eq => by cases eq
    · rw [if_neg newer]
      by_cases older : stored < currentVersion
      · rw [if_pos older]
        refine Secures.knowing (B := AtMost site.documents currentVersion) ?_ fun kept holds m eq => ?_
        · refine (secures_lock isGuard _).bind fun _ => ?_
          refine (secures_builds isGuard site.asks_upgrade).bind fun _ => ?_
          exact writes.bind fun _ => returns _
        · obtain rfl := Except.ok.inj (holds.2.symm.trans eq)
          exact older.le
      · rw [if_neg older]
        exact Secures.pure fun _ _ worked =>
          ⟨rises_of_unwritten worked.1.1, fun x mem => rises_of_unwritten (worked.2 x mem).1⟩
  | false =>
    refine Secures.knowing (B := AtMost site.documents currentVersion) ?_ fun kept holds m eq => ?_
    · refine (secures_lock isGuard _).bind fun _ => ?_
      refine (secures_builds isGuard site.asks_createTables).bind fun _ => ?_
      exact writes.bind fun _ => returns _
    · rw [keptVersion, holds.2 rfl] at eq
      obtain rfl := Except.ok.inj eq
      decide

end Ensure

/-- A lock that is held is enough. -/
lemma isGuard_mem (own : K) : IsGuard (own ∈ ·) where
  inter hl hm := ⟨hl, hm⟩
  insert hl := Set.mem_insert_of_mem _ hl

/-- To bring a schema up to date makes no version less, as long as others commit nothing while the lock of the
prefix is held. -/
theorem secures_ensure (site : Site) :
    Secures (K := K) hash site.documents (hash site.prefixLock ∈ ·) (fun _ s => s.inTransaction = false)
      (VersionCall.ensure site).work fun _ _ _ => True := by
  have work : Secures (K := K) hash site.documents (hash site.prefixLock ∈ ·) (fun _ s => Fresh s)
      (do Site.lock site.prefixLock; let outcome ← site.bringUpToDate; site.claim; return outcome)
      fun _ => Live (hash site.prefixLock ∈ ·) (Worked site.documents (Rising site.documents)) := by
    have isGuard := isGuard_mem (hash site.prefixLock)
    refine (secures_prefixLock site.prefixLock).bind fun _ => ?_
    refine (secures_bringUpToDate isGuard).bind fun outcome => ?_
    have claims : Asks (Plain site.documents) site.claim :=
      site.asks_claim.imp fun _ => plain_of_tends (by decide)
    exact (secures_of_asks isGuard rising_made claims).bind fun _ =>
      Secures.pure fun _ _ h => h
  exact (secures_around work).bind fun _ => .pure (Regime.stable_session _ fun _ => True) fun _ _ h => h

/-- To set a version makes no version less, as long as others commit nothing meanwhile. -/
theorem secures_advance (site : Site) {version : Int} (high : version ≤ Text.maxInt64) :
    Secures (K := K) hash site.documents (fun _ => True) (fun _ s => s.inTransaction = false)
      (VersionCall.advance site version).work fun _ _ _ => True := by
  refine secures_around ?_
  have writes : Secures (K := K) hash site.documents (fun _ => True)
      (Live (fun _ => True) (Worked site.documents (Unwritten fun _ => True))) (site.advanceVersion version)
      fun _ => Live (fun _ => True) (Worked site.documents (Rising site.documents)) := by
    refine (secures_version _).bind fun stored => ?_
    by_cases backwards : version < stored
    · rw [if_pos backwards]
      exact Secures.ofExcept fun _ _ _ eq => by cases eq
    · rw [if_neg backwards]
      refine (secures_writeVersion high).knowing fun kept ⟨_, read⟩ => ⟨?_, fun m eq => ?_⟩
      · exact (keptVersion_nonneg read).trans (not_lt.1 backwards)
      · obtain rfl := Except.ok.inj (read.symm.trans eq)
        exact not_lt.1 backwards
  exact writes.strengthen fun _ _ fresh => fresh.live fun _ => trivial

end Call

/-! ## All sessions -/

section Sessions
variable {ι K : Type} {hash : String → K} {site : Site}

/-- Sessions on the table of settings of a site. -/
abbrev Sessions (ι K : Type) (site : Site) : Type := System ι (versionStore site.documents) K VersionCall

/-- Each call has a transaction of its own, and all calls are about one table. -/
def OfOneTable (site : Site) (s : Sessions ι K site) (i : ι) (call : VersionCall) : Prop :=
  (s.sessions i).inTransaction = false ∧ call.Concerns site

/-- While a version is being set, nothing changes by other calls, and by the setting of it nothing changes for
other calls that are under way. -/
def Undisturbed (s s' : Sessions ι K site) : Prop :=
  s'.kept ≠ s.kept → ∀ i j call p, i ≠ j → s.calls i = some (call, p) → call.Sets → s.calls j = none

/-- A call keeps to what is expected of it. -/
lemma secures_work {call : VersionCall} (concerns : call.Concerns site) :
    Secures hash site.documents (call.Guards (hash site.prefixLock)) (fun _ s => s.inTransaction = false)
      call.work fun _ _ _ => True := by
  have lock (other : Site) (eq : other.tablePrefix = site.tablePrefix) :
      other.prefixLock = site.prefixLock :=
    congrArg (fun p : Option TablePrefix => "pgtenant.schema." ++ (p.map (·.text)).getD "") eq
  cases call with
  | ensure other =>
    obtain ⟨documents, tablePrefix⟩ := concerns
    rw [← documents, ← lock other tablePrefix]
    exact secures_ensure other
  | advance other version =>
    obtain ⟨documents, -, high⟩ := concerns
    rw [← documents]
    exact secures_advance other high

/-- What is so of a session while it is about a call. -/
inductive Abides (hash : String → K) (site : Site) (kept : Option (Option SettingEntry))
    (session : Interleaving.Session (versionStore site.documents) K) :
    Option (VersionCall × Talk Unit) → Prop where
  | idle : Abides hash site kept session none
  | busy (call : VersionCall) {p : Talk Unit}
    (heeds : Heeds hash (versionRegime site.documents (call.Guards (hash site.prefixLock)))
      (fun _ _ _ => True) p kept session) : Abides hash site kept session (some (call, p))

variable {s s' : Sessions ι K site}

/-- What is so of all sessions at any time. -/
structure Orderly (hash : String → K) (s : Sessions ι K site) : Prop where
  exclusive : s.Exclusive
  abides : ∀ i, Abides hash site s.kept (s.sessions i) (s.calls i)

/-- An answer changes what is kept only by a commit that makes no version less, with the locks of its call. -/
lemma commits_of_heeds {call : VersionCall} {r : Request} {next : Except Failure r.Answer → Talk Unit}
    {kept kept' : (versionStore site.documents).Kept}
    {session t : Interleaving.Session (versionStore site.documents) K} {free : K → Prop}
    {clear : String → List Parameter → Prop} {result : Except Failure r.Answer}
    (heeds : Heeds hash (versionRegime site.documents (call.Guards (hash site.prefixLock)))
      (fun _ _ _ => True) (.ask r next) kept session)
    (answers : Answers hash free clear kept session r result kept' t) :
    kept' = kept ∨ call.Guards (hash site.prefixLock) session.locks ∧ Rises site.documents kept kept' := by
  obtain ⟨within, commit⟩ := heeds.allows
  rcases answers.kept_eq within with same | ⟨eq, inside, rfl⟩
  · exact .inl same
  · exact .inr (commit eq inside)

/-- A session keeps to its call while others leave it alone. -/
lemma Abides.meanwhile {kept kept' : (versionStore site.documents).Kept}
    {session : Interleaving.Session (versionStore site.documents) K} {call : Option (VersionCall × Talk Unit)}
    (h : Abides hash site kept session call)
    (rely : ∀ c p, call = some (c, p) → c.Guards (hash site.prefixLock) session.locks → kept' = kept) :
    Abides hash site kept' session call := by
  cases h with
  | idle => exact .idle
  | @busy c p heeds => exact .busy c (heeds.meanwhile (rely c p rfl))

/-- Two calls of which neither sets a version do not both have the locks that they need. -/
lemma eq_of_guards (exclusive : s.Exclusive) {i j : ι} {c c' : VersionCall} (sets : ¬ c.Sets)
    (sets' : ¬ c'.Sets) (guards : c.Guards (hash site.prefixLock) (s.sessions i).locks)
    (guards' : c'.Guards (hash site.prefixLock) (s.sessions j).locks) : i = j := by
  cases c with
  | advance other version => exact absurd ⟨other, version, rfl⟩ sets
  | ensure =>
    cases c' with
    | advance other version => exact absurd ⟨other, version, rfl⟩ sets'
    | ensure => exact exclusive i j _ guards guards'

/-- At the start nobody holds a lock or is about a call. -/
lemma orderly_start (kept : Option (Option SettingEntry)) :
    Orderly hash (System.start kept : Sessions ι K site) where
  exclusive _ _ _ mem := by cases mem
  abides _ := .idle

variable [DecidableEq ι]

/-- What happens next, if versions are set undisturbed. -/
def Succeeds (hash : String → K) (s s' : Sessions ι K site) : Prop :=
  Interleaving.Step hash (fun _ => VersionCall.work) (OfOneTable site) s s' ∧ Undisturbed s s'

/-- No step makes the version less. -/
lemma Succeeds.rises (step : Succeeds hash s s') (orderly : Orderly hash s) :
    Rises site.documents s.kept s'.kept := by
  cases step.1 with
  | call => exact .refl
  | @answer i call r next asks result kept session answers =>
    have abides := orderly.abides i
    rw [asks] at abides
    cases abides with
    | busy _ heeds =>
      rcases commits_of_heeds heeds answers with same | ⟨-, rises⟩
      · rw [same]
        exact .refl
      · exact rises
  | finish => exact .refl

/-- Sessions stay in order with every step. -/
lemma Succeeds.orderly (step : Succeeds hash s s') (h : Orderly hash s) : Orderly hash s' where
  exclusive := step.1.exclusive h.exclusive
  abides := by
    obtain ⟨step, undisturbed⟩ := step
    refine step.each (P := fun _ kept session _ call => Abides hash site kept session call) h.abides
      (fun i c allowed _ => ?_) (fun {i c r next result kept t} asks answers keeps here => ?_) fun _ => .idle
    · exact .busy c ((secures_work allowed.2 s.kept _ allowed.1).imp fun _ _ _ _ => trivial)
    · cases here with
      | busy _ heeds =>
        refine ⟨.busy c (heeds.answer answers), fun j other there => ?_⟩
        refine there.meanwhile fun c' p' asks' guards' => ?_
        by_contra changes
        have guards := ((commits_of_heeds heeds answers).resolve_left changes).1
        rw [← keeps] at changes
        have sets : ¬ c.Sets := fun sets => by
          rw [undisturbed changes i j c _ other.symm asks sets] at asks'
          cases asks'
        have sets' : ¬ c'.Sets := fun sets' => by
          rw [undisturbed changes j i c' _ other asks' sets'] at asks
          cases asks
        exact other (eq_of_guards h.exclusive sets sets' guards guards').symm

/-- So they are in order at any time. -/
lemma orderly_of_reach {kept : Option (Option SettingEntry)}
    (reach : Relation.ReflTransGen (Succeeds hash) (System.start kept : Sessions ι K site) s) :
    Orderly hash s := by
  induction reach with
  | refl => exact orderly_start kept
  | tail _ step ih => exact step.orderly ih

end Sessions

/-! ## Two sessions -/

section Two
variable {s s' : Sessions Bool String bareSite} {i : Bool} {n : Int} {x : SettingEntry} {call : VersionCall}

/-- The steps of two sessions on the table. -/
abbrev Side (s s' : Sessions Bool String bareSite) (i : Bool) : Prop :=
  Moves id (fun _ => VersionCall.work) (OfOneTable bareSite) s s' i

/-- While nothing is kept, nothing changes for others. -/
lemma Side.succeeds (h : Side s s' i) : Relation.ReflTransGen (Succeeds id) s s' :=
  Relation.ReflTransGen.mono (fun _ _ step => ⟨step.1, fun changes => absurd step.2 changes⟩) _ _ h.quietly

/-- A session need not wait while no other one has written the version. -/
lemma clear_of_unwritten (unwritten : ∀ j ≠ i, (s.sessions j).work.row = none) (sql : String)
    (ps : List Parameter) : s.Clear i sql ps := by
  rintro j other ⟨some, -⟩
  rw [unwritten j other] at some
  cases some

/-- A version is to be set, and the former one has been read. -/
lemma exists_moves_writing {m : Int} (fresh : s.sessions i = {}) (idle : s.calls i = none)
    (past : s.past i = []) (kept : s.kept = some (some x)) (read : keptVersion false (some (some x)) = .ok m)
    (le : m ≤ n) (high : n ≤ Text.maxInt64) (unwritten : ∀ j ≠ i, (s.sessions j).work.row = none) :
    ∃ s', Side s s' i ∧ At .first (s'.sessions i) ∧ s'.calls i = some (.advance bareSite n, writing n) := by
  have opened : (s.sessions i).closed = false := by rw [fresh]
  have outside : (s.sessions i).inTransaction = false := by rw [fresh]
  have allowed : OfOneTable bareSite s i (.advance bareSite n) := ⟨outside, rfl, rfl, high⟩
  obtain ⟨s', moves, there, calls, -⟩ : ∃ s', Side s s' i ∧ At .first (s'.sessions i) ∧
      s'.calls i = some (.advance bareSite n, writing n) ∧ _ :=
    exists_moves_call idle allowed (fun _ => past)
      (arrives_writing opened outside (clear_of_unwritten unwritten) kept read le)
  exact ⟨s', moves, there, calls⟩

/-- It is written. -/
lemma exists_moves_written (asks : s.calls i = some (call, writing n)) (here : At .first (s.sessions i))
    (kept : s.kept = some (some x)) (bare : x.document = none)
    (unwritten : ∀ j ≠ i, (s.sessions j).work.row = none) :
    ∃ s', Side s s' i ∧ At (Stage.first.written n) (s'.sessions i) ∧
      ∃ next, s'.calls i = some (call, .ask .commit next) := by
  have writes : Goes (.around id s i) .first (bareSite.writeVersion n) () (Stage.first.written n) :=
    goes_writeVersion (clear_of_unwritten unwritten) kept rfl bare
  exact exists_moves_on asks here writes.commits

/-- The schema is to be brought up to date, and the lock of the prefix is held. -/
lemma exists_moves_upkeep (fresh : s.sessions i = {}) (idle : s.calls i = none) (past : s.past i = [])
    (free : s.Free i bareSite.prefixLock) :
    ∃ s', Side s s' i ∧ At (Stage.first.locked bareSite.prefixLock) (s'.sessions i) ∧
      s'.calls i = some (.ensure bareSite, upkeep) := by
  have opened : (s.sessions i).closed = false := by rw [fresh]
  have outside : (s.sessions i).inTransaction = false := by rw [fresh]
  have allowed : OfOneTable bareSite s i (.ensure bareSite) := ⟨outside, rfl, rfl⟩
  obtain ⟨s', moves, there, calls, -⟩ : ∃ s', Side s s' i ∧
      At (Stage.first.locked bareSite.prefixLock) (s'.sessions i) ∧
      s'.calls i = some (.ensure bareSite, upkeep) ∧ _ :=
    exists_moves_call idle allowed (fun _ => past) (arrives_upkeep opened outside free)
  exact ⟨s', moves, there, calls⟩

/-- The schema is to be brought up to date, and the lock of the prefix is asked for. -/
lemma exists_moves_queue (fresh : s.sessions i = {}) (idle : s.calls i = none) (past : s.past i = []) :
    ∃ s', Side s s' i ∧ At .first (s'.sessions i) ∧
      ∃ next, s'.calls i = some (.ensure bareSite, .ask (lockRequest bareSite.prefixLock) next) := by
  have opened : (s.sessions i).closed = false := by rw [fresh]
  have outside : (s.sessions i).inTransaction = false := by rw [fresh]
  have allowed : OfOneTable bareSite s i (.ensure bareSite) := ⟨outside, rfl, rfl⟩
  obtain ⟨s', moves, there, calls, -⟩ : ∃ s', Side s s' i ∧ At .first (s'.sessions i) ∧
      (∃ next, s'.calls i = some (.ensure bareSite, .ask (lockRequest bareSite.prefixLock) next)) ∧ _ :=
    exists_moves_ask idle allowed (fun _ => past) (arrives_queue opened outside)
  exact ⟨s', moves, there, calls⟩

/-- With the lock of the prefix a schema of an older version is upgraded. -/
lemma exists_moves_upgraded {g : Stage (versionStore false) String}
    (asks : s.calls i = some (call, upkeep)) (here : At g (s.sessions i)) (blank : g.work = {})
    (kept : s.kept = some (some x)) (read : keptVersion false (some (some x)) = .ok n)
    (older : n < currentVersion) (bare : x.document = none) (free : s.Free i Site.commonLock)
    (unwritten : ∀ j ≠ i, (s.sessions j).work.row = none) :
    ∃ s', Side s s' i ∧ At ((g.locked Site.commonLock).written currentVersion) (s'.sessions i) ∧
      ∃ next, s'.calls i = some (call, .ask .commit next) := by
  have upgrades : Goes (.around id s i) g bareSite.bringUpToDate (.upgraded n)
      ((g.locked Site.commonLock).written currentVersion) :=
    goes_bringUpToDate (clear_of_unwritten unwritten) kept blank read older bare free
  have work : Goes (.around id s i) g (do
      let outcome ← bareSite.bringUpToDate
      bareSite.claim
      return outcome) (.upgraded n) ((g.locked Site.commonLock).written currentVersion) :=
    upgrades.bind (.bind (.pure ()) (.pure _))
  exact exists_moves_on asks here work.commits.first

/-- What was written is kept with the commit. -/
lemma exists_step_commit {g : Stage (versionStore false) String} {next : Except Failure Unit → Talk Unit}
    (asks : s.calls i = some (call, .ask .commit next)) (here : At (g.written n) (s.sessions i)) :
    ∃ s', Interleaving.Step id (fun _ => VersionCall.work) (OfOneTable bareSite) s s' ∧
      s'.kept = some (some (versionEntry n)) ∧ (s'.sessions i).work.row = none ∧
      ∀ j ≠ i, s'.sessions j = s.sessions j ∧ s'.calls j = s.calls j := by
  have answers : Answers id (s.Free i) (s.Clear i) s.kept (s.sessions i) .commit (.ok ())
      (sight s.kept (s.sessions i).work) (s.sessions i).ended := .commit here.opened here.inside
  rw [here.work] at answers
  refine ⟨_, .answer asks answers, rfl, ?_, fun j other => ?_⟩
  · dsimp only
    rw [Function.update_self]
    rfl
  · exact ⟨Function.update_of_ne other _ _, Function.update_of_ne other _ _⟩

end Two

/-! ## The version -/

/-- The version never becomes less, whatever the order in which the requests of all sessions are answered. -/
theorem versions_rise {ι K : Type} [DecidableEq ι] {hash : String → K} {site : Site}
    {s s' : Sessions ι K site} {kept : Option (Option SettingEntry)}
    (before : Relation.ReflTransGen (Succeeds hash) (System.start kept : Sessions ι K site) s)
    (after : Relation.ReflTransGen (Succeeds hash) s s') : Rises site.documents s.kept s'.kept := by
  induction after with
  | refl => exact .refl
  | tail more step ih => exact ih.trans (step.rises (orderly_of_reach (before.trans more)))

/-- Of two sessions that bring the schema up to date, one waits for the other one, by which the version becomes
1. -/
theorem versions_rise_queue : ∃ s s' : Sessions Bool String bareSite,
    Relation.ReflTransGen (Succeeds id) (System.start (some (some (versionEntry 0)))) s ∧
      Relation.ReflTransGen (Succeeds id) s s' ∧ s.Waits id true false ∧ keptVersion false s.kept = .ok 0 ∧
      keptVersion false s'.kept = .ok 1 ∧ Rises false s.kept s'.kept := by
  have zero : keptVersion false (some (some (versionEntry 0))) = .ok 0 :=
    keptVersion_entry (by decide) (by decide)
  have one : keptVersion false (some (some (versionEntry 1))) = .ok 1 :=
    keptVersion_entry (by decide) (by decide)
  -- One has taken the lock of the prefix, and the other one asks for it.
  obtain ⟨s₁, takes, holds, asks⟩ := exists_moves_upkeep (i := false)
    (s := System.start (some (some (versionEntry 0)))) rfl rfl rfl fun _ _ mem => by cases mem
  obtain ⟨session, calls, past⟩ := takes.others true (by decide)
  obtain ⟨s₂, queues, there, next, asks'⟩ := exists_moves_queue session calls past
  obtain ⟨session, calls, -⟩ := queues.others false (by decide)
  rw [← session] at holds
  have waits : s₂.Waits id true false := waits_of_held (by decide) asks' holds (Set.mem_insert _ _)
  have kept := queues.kept.trans takes.kept
  -- The one upgrades the tables and commits.
  have only (j : Bool) (other : j ≠ false) : (s₂.sessions j).locks = ∅ ∧ (s₂.sessions j).work.row = none := by
    rw [Bool.eq_true_of_not_eq_false other, there.locks, there.work]
    exact ⟨rfl, rfl⟩
  obtain ⟨s₃, upgrades, writes, next', asks⟩ := exists_moves_upgraded (calls.trans asks) holds rfl kept zero
    (by decide) rfl (fun j other mem => by rw [(only j other).1] at mem; cases mem) fun j other => (only j other).2
  obtain ⟨s₄, commits, kept', -, -⟩ := exists_step_commit asks writes
  have calls' := (upgrades.others true (by decide)).2.1.trans asks'
  have last : Succeeds id s₃ s₄ := by
    refine ⟨commits, fun _ i j call p other calling ⟨site, version, sets⟩ => ?_⟩
    subst sets
    cases i with
    | false => cases asks.symm.trans calling
    | true => cases calls'.symm.trans calling
  have before := takes.succeeds.trans queues.succeeds
  have after := upgrades.succeeds.tail last
  exact ⟨s₂, s₄, before, after, waits, kept ▸ zero, kept' ▸ one, versions_rise before after⟩

/-- Both sessions find the version 1. One sets it to 3, and the other one to 2 thereafter. -/
theorem version_falls : ∃ s s' : Sessions Bool String bareSite,
    Relation.ReflTransGen (Interleaving.Step id (fun _ => VersionCall.work) (OfOneTable bareSite))
      (System.start (some (some (versionEntry 1)))) s ∧
      Relation.ReflTransGen (Interleaving.Step id (fun _ => VersionCall.work) (OfOneTable bareSite)) s s' ∧
      keptVersion false s.kept = .ok 3 ∧ keptVersion false s'.kept = .ok 2 := by
  have one : keptVersion false (some (some (versionEntry 1))) = .ok 1 :=
    keptVersion_entry (by decide) (by decide)
  have two : keptVersion false (some (some (versionEntry 2))) = .ok 2 :=
    keptVersion_entry (by decide) (by decide)
  have three : keptVersion false (some (some (versionEntry 3))) = .ok 3 :=
    keptVersion_entry (by decide) (by decide)
  -- Both have read the version, and neither has written.
  obtain ⟨s₁, reads, here, asks⟩ := exists_moves_writing (n := 3) (i := false)
    (s := System.start (some (some (versionEntry 1)))) rfl rfl rfl rfl one (by decide) (by decide) fun _ _ => rfl
  obtain ⟨session, calls, past⟩ := reads.others true (by decide)
  obtain ⟨s₂, reads', there, asks'⟩ := exists_moves_writing (n := 2) session calls past reads.kept one
    (by decide) (by decide) fun j other => by rw [Bool.eq_false_of_not_eq_true other, here.work]; rfl
  obtain ⟨session, calls, -⟩ := reads'.others false (by decide)
  rw [← session] at here
  have kept := reads'.kept.trans reads.kept
  -- One writes and commits, and is waited for by nobody.
  obtain ⟨s₃, writes, here, next, asks⟩ := exists_moves_written (calls.trans asks) here kept rfl
    fun j other => by rw [Bool.eq_true_of_not_eq_false other, there.work]; rfl
  obtain ⟨session, calls, -⟩ := writes.others true (by decide)
  rw [← session] at there
  obtain ⟨s₄, commits, kept, gone, others⟩ := exists_step_commit asks here
  obtain ⟨session, calls'⟩ := others true (by decide)
  rw [← session] at there
  -- So does the other one, which does not look again.
  obtain ⟨s₅, writes', there, next', asks'⟩ :=
    exists_moves_written (calls'.trans (calls.trans asks')) there kept rfl fun j other => by
      rw [Bool.eq_false_of_not_eq_true other, gone]
  obtain ⟨s₆, commits', kept', -⟩ := exists_step_commit asks' there
  have before := ((reads.steps.trans reads'.steps).trans writes.steps).tail commits
  exact ⟨s₄, s₆, before, writes'.steps.tail commits', kept ▸ three, kept' ▸ two⟩

end Tenancy.Schema
