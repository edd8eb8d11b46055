import Tenancy.Proofs.Schema.Asking
import Tenancy.Proofs.Schema.Version
import Tenancy.Proofs.Server.Reliance

/-!
# A store for the version

Of a table of settings only the entry of the version is of interest here. A transaction sees its own entry
or else the last one that was committed (`sight`), a writer waits for another one that has not committed yet,
and what a transaction has written is kept when it commits: `versionStore` is that. `Live` is what can be
known of a transaction as long as others commit nothing; `secures_version`, `secures_writeVersion` and
`secures_of_asks` follow it through a query for the version, through the writing of a version, and through
everything that is not about the version.
-/

namespace Tenancy.Schema
open Connection Engine Interleaving

/-! ## The store -/

/-- What a transaction has done to the table of settings: the entry of the version that it has written, and
whether it has created the table. -/
structure VersionWork where
  row : Option SettingEntry := none
  made : Bool := false

/-- The entry of the version, if there is one, in the table that a transaction sees, if there is a table. -/
def sight (kept : Option (Option SettingEntry)) (work : VersionWork) : Option (Option SettingEntry) :=
  match work.row with
  | some x => some (some x)
  | none => if work.made then some kept.join else kept

/-- A transaction that has not written the version sees the one that is kept. -/
lemma join_sight {kept : Option (Option SettingEntry)} {work : VersionWork} (unwritten : work.row = none) :
    (sight kept work).join = kept.join := by
  rw [sight, unwritten]
  dsimp only
  split
  · rfl
  · rfl

/-- Whether it has created the table makes no difference to the entry. -/
lemma join_sight_made (kept : Option (Option SettingEntry)) (work : VersionWork) (made : Bool) :
    (sight kept { work with made }).join = (sight kept work).join := by
  obtain ⟨row, -⟩ := work
  cases row with
  | none => rw [join_sight rfl, join_sight rfl]
  | some x => rfl

/-- If it sees no table, no version is kept. -/
lemma join_of_unseen {kept : Option (Option SettingEntry)} {work : VersionWork} (unwritten : work.row = none)
    (unseen : (sight kept work).isSome = false) : kept.join = none := by
  have none : sight kept work = none := by
    rw [← Option.not_isSome_iff_eq_none, unseen]
    exact Bool.false_ne_true
  rw [← join_sight unwritten, none, Option.join_none]

/-- Whether a statement asks for the version. -/
def AsksVersion (documents : Bool) (sql : String) (ps : List Parameter) : Prop :=
  sql = Site.settingQuery { documents } ∧ ps = [.text versionKey]

/-- Whether a statement writes a value as the version. -/
def PutsVersion (documents : Bool) (value : Json) (sql : String) (ps : List Parameter) : Prop :=
  sql = Site.settingStatement { documents } ∧ ps = settingParameters documents versionKey value

/-- What comes of a statement. -/
structure VersionRuns (documents : Bool) (kept : Option (Option SettingEntry)) (work : VersionWork)
    (sql : String) (ps : List Parameter) (reply : Reply) (work' : VersionWork) : Prop where
  reads : AsksVersion documents sql ps → work' = work ∧ ∃ x, sight kept work = some x ∧
    reply.columns.map (·.type) = ["jsonb", "bytea"] ∧ reply.rows = x.toList.map (SettingEntry.row documents)
  writes : ∀ value, PutsVersion documents value sql ps → ∃ old new, sight kept work = some old ∧
    Written documents value old (some new) ∧ work' = { work with row := some new }
  /-- What is not about the version can create the table at most. -/
  others : ¬ AsksVersion documents sql ps → (∀ value, ¬ PutsVersion documents value sql ps) →
    ∃ made, work' = { work with made }

/-- Where the version is kept, in a table of settings or in none. -/
def versionStore (documents : Bool) : Store where
  Kept := Option (Option SettingEntry)
  Work := VersionWork
  blank := {}
  executes := VersionRuns documents
  finds kept work name found := name = settingsTable → found = (sight kept work).isSome
  hinders work sql ps := work.row.isSome ∧ ∃ value, PutsVersion documents value sql ps
  publish := sight

/-- The version that is kept. -/
def keptVersion (documents : Bool) (kept : Option (Option SettingEntry)) : Except Failure Int :=
  Site.versionIn { documents } kept.join

/-- A version that is kept is not negative. -/
lemma keptVersion_nonneg {documents : Bool} {kept : Option (Option SettingEntry)} {n : Int}
    (h : keptVersion documents kept = .ok n) : 0 ≤ n := by
  rcases Site.versionIn_cases { documents } kept.join with
    ⟨m, -, positive, eq⟩ | ⟨-, -, fault, eq⟩ | ⟨-, failure, eq⟩
  · obtain rfl := Except.ok.inj (h.symm.trans eq)
    exact positive
  · cases h.symm.trans eq
  · cases h.symm.trans eq

/-- Whether a version, if there was one, is still there or was replaced by one that is not less. -/
def Rises (documents : Bool) (kept kept' : Option (Option SettingEntry)) : Prop :=
  ∀ m, keptVersion documents kept = .ok m → ∃ n, keptVersion documents kept' = .ok n ∧ m ≤ n

/-- Whether the version that is kept, if there is one, is at most a number. -/
def AtMost (documents : Bool) (n : Int) (kept : Option (Option SettingEntry)) : Prop :=
  ∀ m, keptVersion documents kept = .ok m → m ≤ n

section Rises
variable {documents : Bool} {kept kept' kept'' : Option (Option SettingEntry)} {work : VersionWork}

/-- A version that stays has not become less. -/
lemma Rises.refl : Rises documents kept kept := fun m eq => ⟨m, eq, le_refl m⟩

/-- Nor has one that did so neither the first time nor the second. -/
lemma Rises.trans (h : Rises documents kept kept') (h' : Rises documents kept' kept'') :
    Rises documents kept kept'' := by
  intro m eq
  obtain ⟨n, eq', le⟩ := h m eq
  obtain ⟨k, eq'', le'⟩ := h' n eq'
  exact ⟨k, eq'', le.trans le'⟩

/-- A transaction that has not written the version makes it no less. -/
lemma rises_of_unwritten (unwritten : work.row = none) : Rises documents kept (sight kept work) := by
  intro m eq
  rw [keptVersion, ← join_sight unwritten] at eq
  exact ⟨m, eq, le_refl m⟩

/-- A version that is written and not less than the one before. -/
lemma rises_of_written {x : SettingEntry} {n : Int} (row : work.row = some x)
    (holds : Site.versionIn { documents } (some x) = .ok n)
    (most : AtMost documents n kept) : Rises documents kept (sight kept work) := by
  intro m eq
  refine ⟨n, ?_, most m eq⟩
  rw [sight, row]
  exact holds

end Rises

/-- A version that is written can be read. -/
lemma versionIn_of_written {documents : Bool} {n : Int} {old : Option SettingEntry} {x : SettingEntry}
    (positive : 0 ≤ n) (high : n ≤ Text.maxInt64) (written : Written documents (.int n) old (some x)) :
    Site.versionIn { documents } (some x) = .ok n := by
  obtain ⟨k, rfl⟩ := Int.eq_ofNat_of_zero_le positive
  have fits : k ≤ Text.maxWord64 := by
    unfold Text.maxInt64 at high
    unfold Text.maxWord64
    omega
  have low : Text.minInt64 ≤ (k : Int) := by
    unfold Text.minInt64
    omega
  have read : Site.decode { documents } versionKey (some x) = .ok (some (.int k)) :=
    Site.decode_of_parse (Json.parse_int fits) written
  have holds : Site.Holds { documents } (some x) k := ⟨_, Site.says_of_decode_eq read, .int low high⟩
  rcases Site.versionIn_cases { documents } (some x) with ⟨m, holds', -, eq⟩ | ⟨-, negative, -⟩ | ⟨lost, -⟩
  · rw [holds.unique holds']
    exact eq
  · exact absurd (negative k holds) (by omega)
  · exact absurd holds.converts lost

/-! ## Transactions that others leave alone -/

section Live
variable {K : Type} {α : Type} {hash : String → K} {documents : Bool} {guard : Set K → Prop}

/-- A call relies on others to commit nothing while it holds such locks, and commits only what makes no
version less, as long as it holds them. Its statements are run in transactions. -/
def versionRegime (documents : Bool) (guard : Set K → Prop) : Regime (versionStore documents) K where
  rely s kept kept' := guard s.locks → kept' = kept
  refl _ _ _ := rfl
  trans h h' guards := (h' guards).trans (h guards)
  allows kept s r :=
    (∀ sql ps, r = .execute sql ps → s.closed = false → s.inTransaction = true) ∧
      (r = .commit → s.inTransaction = true → guard s.locks ∧ Rises documents kept (sight kept s.work))

/-- From where `P` holds, a procedure keeps to that, and it leaves `Q` where it succeeds. -/
abbrev Secures (hash : String → K) (documents : Bool) (guard : Set K → Prop)
    (P : Option (Option SettingEntry) → Interleaving.Session (versionStore documents) K → Prop) (p : Talk α)
    (Q : α → Option (Option SettingEntry) → Interleaving.Session (versionStore documents) K → Prop) : Prop :=
  (versionRegime documents guard).Triple hash P p Q fun _ _ => True

/-- Whether locks are enough as long as none is let go of that was enough. -/
structure IsGuard (guard : Set K → Prop) : Prop where
  inter : ∀ {l m}, guard l → guard m → guard (l ∩ m)
  insert : ∀ {k l}, guard l → guard (insert k l)

/-- A transaction is open, with enough locks now and at each of its savepoints, and something is so of it; or
else the connection is lost. -/
inductive Live (guard : Set K → Prop)
    (Q : Option (Option SettingEntry) → Interleaving.Session (versionStore documents) K → Prop)
    (kept : Option (Option SettingEntry)) (s : Interleaving.Session (versionStore documents) K) : Prop where
  | lost (closed : s.closed = true) (outside : s.inTransaction = false)
  | inside (inside : s.inTransaction = true) (guards : s.AllLocks guard) (holds : Q kept s)

variable {Q : Option (Option SettingEntry) → Interleaving.Session (versionStore documents) K → Prop}
  {kept kept' : Option (Option SettingEntry)} {s s' : Interleaving.Session (versionStore documents) K}

/-- What is known of a transaction stays so while others leave it alone. -/
lemma stable_live : (versionRegime documents guard).Stable (Live guard Q) := by
  intro kept kept' s rely h
  cases h with
  | lost closed outside => exact .lost closed outside
  | inside inside guards holds =>
    obtain rfl := rely guards.1
    exact .inside inside guards holds

/-- Less may be said of what is known. -/
lemma Live.imp {Q' : Option (Option SettingEntry) → Interleaving.Session (versionStore documents) K → Prop}
    (h : Live guard Q kept s) (imp : Q kept s → Q' kept s) : Live guard Q' kept s := by
  cases h with
  | lost closed outside => exact .lost closed outside
  | inside inside guards holds => exact .inside inside guards (imp holds)

/-- A session that is not lost is in its transaction. -/
lemma Live.within (h : Live guard Q kept s) (opened : s.closed = false) : s.inTransaction = true := by
  cases h with
  | lost closed =>
    rw [closed] at opened
    cases opened
  | inside inside => exact inside

/-- In its transaction the locks are enough, and the rest is so. -/
lemma Live.holds (h : Live guard Q kept s) (inside : s.inTransaction = true) :
    s.AllLocks guard ∧ Q kept s := by
  cases h with
  | lost closed outside =>
    rw [outside] at inside
    cases inside
  | inside inside guards holds => exact ⟨guards, holds⟩

/-- Anything but a commit may be asked for. -/
lemma Live.allows (h : Live guard Q kept s) {r : Request} (other : r ≠ .commit) :
    (versionRegime documents guard).allows kept s r :=
  ⟨fun _ _ _ => h.within, fun eq => absurd eq other⟩

/-- A result that is known leaves what is so of it. -/
lemma Secures.ofExcept {P : α → Option (Option SettingEntry) →
      Interleaving.Session (versionStore documents) K → Prop} {result : Except Failure α}
    (h : ∀ a kept s, result = .ok a → Q kept s → P a kept s) :
    Secures hash documents guard (Live guard Q) (.ofExcept result) fun a => Live guard (P a) := by
  refine .done stable_live fun kept s live => ?_
  cases result with
  | ok a => exact live.imp (h a kept s rfl)
  | error failure => trivial

/-- So does a value. -/
lemma Secures.pure {P : α → Option (Option SettingEntry) →
      Interleaving.Session (versionStore documents) K → Prop} {a : α} (h : ∀ kept s, Q kept s → P a kept s) :
    Secures hash documents guard (Live guard Q) (Pure.pure a : Talk α) fun a => Live guard (P a) :=
  ofExcept fun _ kept s eq holds => by
    cases eq
    exact h kept s holds

/-- A statement about data leaves what the store makes so. -/
lemma Secures.execute {sql : String} {ps : List Parameter} (reads : Reading.ofSql sql = .work)
    (other : sql ≠ lockStatement) {P : Cursor → Option (Option SettingEntry) →
      Interleaving.Session (versionStore documents) K → Prop}
    (executes : ∀ {kept s reply work}, Q kept s → VersionRuns documents kept s.work sql ps reply work →
      P (s.cursor reply) kept ({ s with work }.received reply)) :
    Secures hash documents guard (Live guard Q) (Talk.execute sql ps)
      fun cursor => Live guard (P cursor) := by
  refine .request_ok stable_live (fun _ => stable_live) (fun kept s live => live.allows (by simp))
    fun live answered => ?_
  have inside := live.within answered.opened
  obtain ⟨guards, holds⟩ := live.holds inside
  obtain ⟨reply, work, executed, rfl, rfl, rfl⟩ := answered.executed inside reads other
  exact .inside inside guards (executes holds executed)

/-- A row that is fetched is the first that the cursor has left. -/
lemma Secures.fetchOne {cursor : Cursor} {P : Option Row → Option (Option SettingEntry) →
      Interleaving.Session (versionStore documents) K → Prop}
    (fetches : ∀ kept s, Q kept s → P (s.rows cursor).head? kept (s.fetched cursor)) :
    Secures hash documents guard (Live guard Q) (Talk.fetchOne cursor) fun row => Live guard (P row) := by
  refine .request_ok stable_live (fun _ => stable_live) (fun kept s live => live.allows (by simp))
    fun live answered => ?_
  cases answered with
  | fetchOne =>
    cases live with
    | lost closed outside => exact .lost closed outside
    | inside inside guards holds => exact .inside inside guards (fetches _ _ holds)

/-- Something is so of what a transaction has done, and had done at each of its savepoints. -/
abbrev Worked (documents : Bool) (R : Option (Option SettingEntry) → VersionWork → Prop)
    (kept : Option (Option SettingEntry)) (s : Interleaving.Session (versionStore documents) K) : Prop :=
  s.AllWork (R kept)

/-- A transaction has not written the version, and something is so of what is kept. -/
def Unwritten (B : Option (Option SettingEntry) → Prop) (kept : Option (Option SettingEntry))
    (work : VersionWork) : Prop := work.row = none ∧ B kept

/-- The version does not become less when a transaction is committed. -/
def Rising (documents : Bool) (kept : Option (Option SettingEntry)) (work : VersionWork) : Prop :=
  Rises documents kept (sight kept work)

/-- Less may be said of what is kept. -/
lemma worked_imp {B C : Option (Option SettingEntry) → Prop} (h : Worked documents (Unwritten B) kept s)
    (imp : B kept → C kept) : Worked documents (Unwritten C) kept s :=
  ⟨⟨h.1.1, imp h.1.2⟩, fun x mem => ⟨(h.2 x mem).1, imp (h.2 x mem).2⟩⟩

/-- What is known of the data that are kept may be more than is needed. -/
lemma Secures.knowing {B C : Option (Option SettingEntry) → Prop} {p : Talk α}
    {Q : α → Option (Option SettingEntry) → Interleaving.Session (versionStore documents) K → Prop}
    (h : Secures hash documents guard (Live guard (Worked documents (Unwritten B))) p Q)
    (imp : ∀ kept, C kept → B kept) :
    Secures hash documents guard (Live guard (Worked documents (Unwritten C))) p Q :=
  Regime.Triple.strengthen h fun kept _ live => live.imp fun worked => worked_imp worked (imp kept)

/-- A transaction is told whether there is a table; if there is none, there is no version either. -/
lemma secures_tableExists (B : Option (Option SettingEntry) → Prop) :
    Secures (K := K) hash documents guard (Live guard (Worked documents (Unwritten B)))
      (Talk.tableExists settingsTable) fun found => Live guard
        (Worked documents (Unwritten fun kept => B kept ∧ (found = false → kept.join = none))) := by
  refine .request_ok stable_live (fun _ => stable_live) (fun kept s live => live.allows (by simp))
    fun live answered => ?_
  cases answered with
  | tableExists opened finds =>
    have inside := live.within opened
    obtain ⟨guards, worked⟩ := live.holds inside
    rw [if_pos inside] at finds
    exact .inside inside guards (worked_imp worked fun also =>
      ⟨also, fun missing => join_of_unseen worked.1.1 ((finds rfl).symm.trans missing)⟩)

section Settings
variable {site : Site} (B : Option (Option SettingEntry) → Prop)

/-- A query for the version gives what the entry that is kept says. -/
lemma secures_query :
    Secures (K := K) hash site.documents guard (Live guard (Worked site.documents (Unwritten B)))
      (site.query versionKey) fun value => Live guard (Worked site.documents
        (Unwritten fun kept => B kept ∧ value = site.decode versionKey kept.join)) := by
  let P (cursor : Cursor) (kept : Option (Option SettingEntry))
      (s : Interleaving.Session (versionStore site.documents) K) : Prop :=
    Worked site.documents (Unwritten B) kept s ∧ cursor.columns.map (·.type) = ["jsonb", "bytea"] ∧
      s.rows cursor = kept.join.toList.map (SettingEntry.row site.documents)
  have asks : Secures hash site.documents guard (Live guard (Worked site.documents (Unwritten B)))
      (Talk.execute site.settingQuery [.text versionKey]) fun cursor => Live (K := K) guard (P cursor) := by
    refine .execute Site.reads_settingQuery Site.settingQuery_ne_lockStatement
      fun {kept s reply work} worked runs => ?_
    obtain ⟨rfl, x, seen, types, rows⟩ := runs.reads ⟨rfl, rfl⟩
    refine ⟨worked, types, ?_⟩
    have entry : kept.join = x := by rw [← join_sight worked.1.1, seen, Option.join_some]
    rw [entry, ← rows]
    refine (Session.rows_received s reply).trans ?_
    rw [isEmpty_of_types types, if_neg Bool.false_ne_true]
  have fetches (cursor : Cursor) : Secures hash site.documents guard (Live guard (P cursor))
      (Talk.fetchOne cursor) fun row => Live guard (Worked site.documents (Unwritten fun kept =>
        B kept ∧ site.told versionKey cursor.columns row = site.decode versionKey kept.join)) := by
    refine .fetchOne fun kept s ⟨worked, types, rows⟩ => ?_
    have next : Worked site.documents (Unwritten fun kept =>
        B kept ∧ site.told versionKey cursor.columns (s.rows cursor).head? = site.decode versionKey kept.join)
        kept s := worked_imp worked fun also => ⟨also, (Site.decode_eq_told types rows).symm⟩
    exact next
  refine asks.bind fun cursor => (fetches cursor).bind fun row => ?_
  exact Secures.pure fun kept s worked => worked

/-- The version that is kept is read. -/
lemma secures_version :
    Secures (K := K) hash site.documents guard (Live guard (Worked site.documents (Unwritten B))) site.version
      fun n => Live guard
        (Worked site.documents (Unwritten fun kept => B kept ∧ keptVersion site.documents kept = .ok n)) := by
  have reads : Secures (K := K) hash site.documents guard (Live guard (Worked site.documents (Unwritten B)))
      (site.setting? versionKey) fun v => Live guard (Worked site.documents
        (Unwritten fun kept => B kept ∧ site.decode versionKey kept.join = .ok v)) := by
    rw [Site.setting?_eq]
    refine (secures_query B).bind fun value => Secures.ofExcept fun v kept s eq worked => ?_
    exact worked_imp worked fun ⟨also, said⟩ => ⟨also, said.symm.trans eq⟩
  refine reads.bind fun v => Secures.ofExcept fun n kept s eq worked => ?_
  refine worked_imp worked fun ⟨also, said⟩ => ⟨also, ?_⟩
  have decoded : Site.decode { documents := site.documents } versionKey kept.join = .ok v := said
  rw [keptVersion, Site.versionIn, decoded]
  exact eq

omit B in
/-- A version that is written is not less than the one before, if that was not greater. -/
lemma secures_writeVersion {n : Int} (high : n ≤ Text.maxInt64) :
    Secures (K := K) hash site.documents guard
      (Live guard (Worked site.documents (Unwritten fun kept => 0 ≤ n ∧ AtMost site.documents n kept)))
      (site.writeVersion n) fun _ => Live guard (Worked site.documents (Rising site.documents)) := by
  have writes : Secures (K := K) hash site.documents guard
      (Live guard (Worked site.documents (Unwritten fun kept => 0 ≤ n ∧ AtMost site.documents n kept)))
      (Talk.execute site.settingStatement (settingParameters site.documents versionKey (.int n)))
      fun _ => Live guard (Worked site.documents (Rising site.documents)) := by
    refine .execute Site.reads_settingStatement Site.settingStatement_ne_lockStatement
      fun {kept s reply work} worked runs => ?_
    obtain ⟨old, new, -, written, rfl⟩ := runs.writes (.int n) ⟨rfl, rfl⟩
    refine ⟨?_, fun x mem => rises_of_unwritten (worked.2 x mem).1⟩
    exact rises_of_written rfl (versionIn_of_written worked.1.2.1 high written) worked.1.2.2
  exact writes.bind fun _ => Secures.pure fun _ _ rising => rising

end Settings

/-! ## Everything else -/

/-- The requests that are not about the version. -/
inductive Plain (documents : Bool) : Request → Prop where
  | fetchOne (cursor : Cursor) : Plain documents (.fetchOne cursor)
  | execute {sql : String} {ps : List Parameter} (asks : ¬ AsksVersion documents sql ps)
    (writes : ∀ value, ¬ PutsVersion documents value sql ps) : Plain documents (.execute sql ps)

/-- What is so of a transaction stays so, if it does not depend on whether the transaction has created the
table. -/
lemma Live.answer {R : Option (Option SettingEntry) → VersionWork → Prop} (isGuard : IsGuard guard)
    (made : ∀ kept work b, R kept work → R kept { work with made := b }) {r : Request}
    (plain : Plain documents r) {free : K → Prop} {clear : String → List Parameter → Prop}
    {result : Except Failure r.Answer} {kept kept' : (versionStore documents).Kept}
    (h : Live guard (Worked documents R) kept s)
    (answers : Answers hash free clear kept s r result kept' s') :
    Live guard (Worked documents R) kept' s' := by
  cases h with
  | lost closed outside =>
    cases answers with
    | execute opened =>
      rw [closed] at opened
      cases opened
    | fails opened =>
      rw [closed] at opened
      cases opened
    | refused => exact .lost closed outside
    | lost => exact .lost rfl rfl
    | fetchOne => exact .lost closed outside
    | _ => cases plain
  | inside inside guards worked =>
    cases plain with
    | fetchOne =>
      cases answers with
      | refused => exact .inside inside guards worked
      | lost => exact .lost rfl rfl
      | fetchOne => exact .inside inside guards worked
    | execute asks writes =>
      have same : kept' = kept := by
        rcases answers.kept_eq fun _ _ _ _ => inside with same | ⟨eq, -⟩
        · exact same
        · cases eq
      cases answers with
      | refused => exact .inside inside guards worked
      | lost => exact .lost rfl rfl
      | fails opened enters =>
        obtain rfl := enters.eq_of_inside inside
        exact .inside inside guards worked
      | execute opened enters runs =>
        obtain rfl := enters.eq_of_inside inside
        subst same
        refine .inside (runs.inTransaction_eq.trans inside) ?_ ?_
        · have locks := runs.allLocks isGuard.inter (fun _ _ _ => isGuard.insert guards.1) guards
          exact locks
        · have rest := runs.allWork (fun holds executes => ?_) worked
          · exact rest
          · obtain ⟨b, rfl⟩ := VersionRuns.others executes asks writes
            exact made _ _ b holds

/-- What is so of a transaction stays so through everything that is not about the version. -/
lemma secures_of_asks {R : Option (Option SettingEntry) → VersionWork → Prop} (isGuard : IsGuard guard)
    (made : ∀ kept work b, R kept work → R kept { work with made := b }) {p : Talk α}
    (asks : Asks (Plain documents) p) :
    Secures (K := K) hash documents guard (Live guard (Worked documents R)) p
      fun _ => Live guard (Worked documents R) := by
  have lasts : (versionRegime documents guard).Triple hash (Live guard (Worked documents R)) p
      (fun _ => Live (K := K) guard (Worked documents R)) (Live guard (Worked documents R)) := by
    refine .of_asks asks stable_live (fun kept s r live plain => live.allows ?_) fun live plain answers => ?_
    · rintro rfl
      cases plain
    · exact Live.answer isGuard made plain live answers
  exact lasts.weaken (fun _ _ live => live) (fun _ _ _ live => live) fun _ _ _ => trivial

/-- A statement whose first parameter is not the key of the version is not about it. -/
lemma plain_of_head {sql : String} {ps : List Parameter} (other : ps.head? ≠ some (.text versionKey)) :
    Plain documents (.execute sql ps) := by
  refine .execute ?_ ?_
  · rintro ⟨-, rfl⟩
    exact other rfl
  · rintro value ⟨-, rfl⟩
    refine other ?_
    unfold settingParameters
    cases documents
    · rfl
    · rfl

/-- A statement that builds the schema is not about the version. -/
lemma plain_of_builds {site : Site} {r : Request} (h : site.Builds r) : Plain documents r := by
  obtain ⟨sql, rfl, -⟩ := h
  exact plain_of_head (by simp)

/-- Nor is one about another setting. -/
lemma plain_of_tends {site : Site} {key : String} (other : key ≠ versionKey) {r : Request}
    (h : site.Tends key r) : Plain documents r := by
  have first : Parameter.text key ≠ .text versionKey := fun eq => other (Parameter.text.inj eq)
  cases h with
  | reads => exact plain_of_head fun eq => first (Option.some.inj eq)
  | fetches cursor => exact .fetchOne cursor
  | writes value =>
    refine plain_of_head fun eq => first (Option.some.inj ?_)
    unfold settingParameters at eq
    cases used : site.documents
    · rw [used] at eq
      exact eq
    · rw [used] at eq
      exact eq

end Live

end Tenancy.Schema
