import Tenancy.Proofs.Schema.Course

/-!
# The order of locks

The upkeep of a schema takes the lock of its prefix first and the one that all tenants have in common second,
and both are held to the end of the transaction, which may be the caller's. `inOrder_ensure` follows that
through one call, whatever is answered and whatever other sessions do meanwhile; `fits_of_reachable` says what
is so of every session at any time. So no two sessions can wait for each other's locks, nor any number of
them in a circle (`lock_order`), unless a caller creates all tables in a transaction and brings the schema
up to date in the same one: the creation takes the common lock alone, and then `locks_cross`.
-/

namespace Tenancy
namespace Schema
open Connection Engine Interleaving

/-! ## Calls -/

/-- What a caller does with a connection. -/
inductive UpkeepCall where
  | ensure (site : Site)
  | createAll (site : Site)
  /-- Something of his own, such as opening a transaction or ending it. -/
  | other (work : Talk Unit)

/-- What is asked for in a call. -/
def UpkeepCall.work : UpkeepCall → Talk Unit
  | ensure site => do let _ ← site.ensure
  | createAll site => site.createAll
  | other work => work

/-- Whether a request is for no lock. -/
def TakesNone (r : Request) : Prop := ∀ key, r ≠ lockRequest key

variable {ι : Type} {S : Store} {K : Type}

/-- The calls that sessions make: the schema of each has one prefix, and callers take no locks themselves. -/
def Usual (key : ι → String) (_ : System ι S K UpkeepCall) (i : ι) : UpkeepCall → Prop
  | .ensure site => site.prefixLock = key i
  | .createAll _ => True
  | .other work => Asks TakesNone work

/-- Whether a call is the creation of all tables. -/
def UpkeepCall.IsCreation (call : UpkeepCall) : Prop := ∃ site, call = createAll site

/-- Whether a set of locks has that of the prefix if it has the common one. -/
def Ordered (own common : K) (locks : Set K) : Prop := common ∈ locks → own ∈ locks

/-- The calls that are made with care: after the creation of all tables, a schema is brought up to date in
the same transaction only if the lock of the prefix is held along with the common one. -/
def Careful (hash : String → K) (key : ι → String) (s : System ι S K UpkeepCall) (i : ι)
    (call : UpkeepCall) : Prop :=
  Usual key s i call ∧ ((∃ site, call = .ensure site) → (∃ x ∈ s.past i, x.IsCreation) →
    Ordered (hash (key i)) (hash Site.commonLock) (s.sessions i).locks)

/-! ## Requests -/

/-- A scope takes no locks. -/
lemma takesNone_of_frames {r : Request} (h : Scope.Frames r) : TakesNone r := by
  intro key eq
  cases h with
  | place =>
    rw [lockRequest, Request.execute.injEq] at eq
    cases eq.2
  | _ => cases eq

/-- Nor does a statement that builds the schema. -/
lemma takesNone_of_builds {site : Site} {r : Request} (h : site.Builds r) : TakesNone r := by
  intro key eq
  obtain ⟨sql, rfl, -⟩ := h
  rw [lockRequest, Request.execute.injEq] at eq
  cases eq.2

/-- Nor does one that reads or writes a setting. -/
lemma takesNone_of_tends {site : Site} {setting : String} {r : Request} (h : site.Tends setting r) :
    TakesNone r := by
  intro key eq
  cases h with
  | reads =>
    rw [lockRequest, Request.execute.injEq] at eq
    exact Site.settingQuery_ne_lockStatement eq.1
  | fetches => cases eq
  | writes =>
    rw [lockRequest, Request.execute.injEq] at eq
    exact Site.settingStatement_ne_lockStatement eq.1

/-- Whether a lock is asked for only if it is the common one. -/
def TakesCommon (hash : String → K) (common : K) (r : Request) : Prop :=
  ∀ key, r = lockRequest key → hash key = common

/-- What takes no lock takes none but the common one. -/
lemma takesCommon_of_takesNone {hash : String → K} {common : K} {r : Request} (h : TakesNone r) :
    TakesCommon hash common r := fun key eq => absurd eq (h key)

/-- The creation of all tables takes the common lock, and no other. -/
lemma asks_createAll (hash : String → K) (site : Site) :
    Asks (TakesCommon hash (hash Site.commonLock)) site.createAll := by
  refine Scope.asks_around (fun r h => takesCommon_of_takesNone (takesNone_of_frames h)) ?_
  refine Asks.bind (p := Site.lock Site.commonLock) ?_ fun _ => ?_
  · refine (Asks.request fun key eq => ?_).bind fun _ => .pure ()
    rw [lockRequest, Request.execute.injEq] at eq
    cases eq.2
    rfl
  · exact Site.asks_createTables.imp fun r h => takesCommon_of_takesNone (takesNone_of_builds h)

/-! ## One call -/

section Call
variable {hash : String → K} {own common : K}

/-- The order in which locks are taken, whatever others do. -/
def lockRegime (hash : String → K) (own common : K) : Regime S K where
  rely _ _ _ := True
  refl _ _ := trivial
  trans _ _ := trivial
  allows _ s r := ∀ key, r = lockRequest key →
    hash key = own ∧ Ordered own common s.locks ∨ hash key = common ∧ own ∈ s.locks

/-- From where `P` holds, a procedure takes locks in order, and it leaves `Q` where it succeeds. -/
abbrev InOrder {α : Type} (S : Store) (hash : String → K) (own common : K)
    (P : Interleaving.Session S K → Prop) (p : Talk α) (Q : α → Interleaving.Session S K → Prop) : Prop :=
  (lockRegime hash own common).Triple hash (fun _ s => P s) p (fun a _ s => Q a s) fun _ _ => True

/-- A transaction is open, and something is so of the locks that are held. -/
abbrev Holding (S : Store) (Q : Set K → Prop) (s : Interleaving.Session S K) : Prop :=
  s.inTransaction = true ∧ Q s.locks

namespace InOrder
variable {α : Type} {P : Interleaving.Session S K → Prop} {Q : Set K → Prop}

/-- What takes no locks may be done anywhere. -/
lemma of_asks {p : Talk α} (asks : Asks TakesNone p) :
    InOrder S hash own common P p fun _ _ => True := by
  have any : (lockRegime hash own common).Triple hash (fun _ (_ : Interleaving.Session S K) => True) p
      (fun _ _ _ => True) fun _ _ => True := by
    refine .of_asks asks (Regime.stable_session _ fun _ => True) (fun _ s r _ none key eq => ?_) ?_
    · exact absurd eq (none key)
    · exact fun _ _ _ => trivial
  exact any.weaken (fun _ _ _ => trivial) (fun _ _ _ _ => trivial) fun _ _ _ => trivial

/-- A request keeps the order if it may be made, and leaves what its answers leave. -/
lemma request {r : Request} {Q : r.Answer → Interleaving.Session S K → Prop}
    (allows : ∀ s, P s → ∀ key, r = lockRequest key →
      hash key = own ∧ Ordered own common s.locks ∨ hash key = common ∧ own ∈ s.locks)
    (answers : ∀ {kept s free clear a kept' s'}, P s →
      Answers hash free clear kept s r (.ok a) kept' s' → Q a s') :
    InOrder S hash own common P (Procedure.request (I := talking) r) Q :=
  Regime.Triple.request_ok (Regime.stable_session _ P) (fun a => Regime.stable_session _ (Q a))
    (fun _ s => allows s) answers

/-- A statement that takes no lock and goes back to no savepoint leaves the locks. -/
lemma execute {sql : String} {ps : List Parameter} (onward : ∀ name, Reading.ofSql sql ≠ .rollbackTo name)
    (none : TakesNone (.execute sql ps)) :
    InOrder S hash own common (Holding S Q) (Talk.execute sql ps) fun _ => Holding S Q := by
  refine request (fun _ _ key eq => absurd eq (none key)) fun h answered => ?_
  have other (key : String) (eq : sql = lockStatement) : ps ≠ [.text key] := fun eq' =>
    none key (by rw [eq, eq', lockRequest])
  obtain ⟨inside, same⟩ := answered.leaves h.1 onward other
  exact ⟨inside, same ▸ h.2⟩

/-- So does fetching a row. -/
lemma fetchOne (cursor : Cursor) :
    InOrder S hash own common (Holding S Q) (Talk.fetchOne cursor) fun _ => Holding S Q := by
  refine request (fun _ _ key eq => by cases eq) fun h answered => ?_
  cases answered
  exact h

/-- So does asking for a table. -/
lemma tableExists (name : String) :
    InOrder S hash own common (Holding S Q) (Talk.tableExists name) fun _ => Holding S Q := by
  refine request (fun _ _ key eq => by cases eq) fun h answered => ?_
  cases answered
  exact h

/-- So does any result that is known. -/
lemma ofExcept (result : Except Failure α) :
    InOrder S hash own common P (.ofExcept result) fun _ => P :=
  Regime.Triple.done (Regime.stable_session _ P) fun _ s h => by
    cases result with
    | ok a => exact h
    | error failure => trivial

/-- A lock may be taken where its turn has come, and is held then. -/
lemma lock {key : String} (turn : ∀ locks, Q locks →
      hash key = own ∧ Ordered own common locks ∨ hash key = common ∧ own ∈ locks) :
    InOrder S hash own common (Holding S Q) (Site.lock key) fun _ => Holding S (hash key ∈ ·) := by
  refine Regime.Triple.bind (M := fun _ _ => Holding S (hash key ∈ ·)) (request ?_ ?_) fun _ => ?_
  · intro s h k eq
    rw [lockRequest, Request.execute.injEq] at eq
    cases eq.2
    exact turn s.locks h.2
  · intro kept s free clear a kept' s' h answered
    obtain ⟨reply, -, rfl⟩ := Answers.holds answered h.1
    exact ⟨h.1, Set.mem_insert _ _⟩
  · exact .pure (Regime.stable_session _ _) fun _ _ h => h

end InOrder

variable {site : Site}

/-- To read a setting leaves the locks. -/
lemma inOrder_setting? (key : String) (Q : Set K → Prop) :
    InOrder S hash own common (Holding S Q) (site.setting? key) fun _ => Holding S Q := by
  have asks : InOrder S hash own common (Holding S Q) (Talk.execute site.settingQuery [.text key])
      fun _ => Holding S Q := by
    refine .execute (fun name eq => ?_) (takesNone_of_tends .reads)
    cases Site.reads_settingQuery.symm.trans eq
  refine asks.bind fun cursor => Regime.Triple.bind (InOrder.fetchOne cursor) fun row => ?_
  cases row with
  | none => exact InOrder.ofExcept (.ok none)
  | some row => exact InOrder.ofExcept _

/-- So does reading the version. -/
lemma inOrder_version (Q : Set K → Prop) :
    InOrder S hash own common (Holding S Q) site.version fun _ => Holding S Q :=
  Regime.Triple.bind (inOrder_setting? versionKey Q) fun _ => InOrder.ofExcept _

/-- While the lock of the prefix is held, the common one may be taken and the schema brought up to date. -/
lemma inOrder_bringUpToDate :
    InOrder S hash own (hash Site.commonLock) (Holding S (own ∈ ·)) site.bringUpToDate fun _ _ => True := by
  have common : InOrder S hash own (hash Site.commonLock) (Holding S (own ∈ ·)) (Site.lock Site.commonLock)
      fun _ => Holding S (hash Site.commonLock ∈ ·) :=
    .lock fun locks held => .inr ⟨rfl, held⟩
  have writes : Asks TakesNone (site.writeVersion currentVersion) :=
    (site.asks_writeVersion currentVersion).imp fun _ => takesNone_of_tends
  have builds {p : Talk Unit} (asks : Asks site.Builds p) : Asks TakesNone p :=
    asks.imp fun _ => takesNone_of_builds
  refine Regime.Triple.bind (InOrder.tableExists settingsTable) fun found => ?_
  cases found with
  | true =>
    refine Regime.Triple.bind (inOrder_version (own ∈ ·)) fun stored => ?_
    by_cases newer : currentVersion < stored
    · rw [if_pos newer]
      exact InOrder.of_asks (.ofExcept _)
    · rw [if_neg newer]
      by_cases older : stored < currentVersion
      · rw [if_pos older]
        refine common.bind fun _ => InOrder.of_asks ?_
        exact (builds site.asks_upgrade).bind fun _ => writes.bind fun _ => .pure _
      · rw [if_neg older]
        exact InOrder.of_asks (.pure _)
  | false =>
    refine common.bind fun _ => InOrder.of_asks ?_
    exact (builds site.asks_createTables).bind fun _ => writes.bind fun _ => .pure _

/-- In a scope that is opened there is a transaction, with the locks in order. -/
lemma inOrder_enter :
    InOrder S hash own common (fun s => Ordered own common s.locks) Scope.enter
      fun _ => Holding S (Ordered own common) := by
  refine Regime.Triple.bind (M := fun inside _ s => s.inTransaction = inside ∧ Ordered own common s.locks)
    (InOrder.request (fun _ _ key eq => by cases eq) fun h answered => ?_) fun inside => ?_
  · cases answered
    exact ⟨rfl, h⟩
  · cases inside with
    | true =>
      refine Regime.Triple.bind (Regime.Triple.bind (InOrder.execute (fun name eq => ?_)
        (takesNone_of_frames (.place (by decide)))) fun _ => InOrder.ofExcept (.ok ())) fun _ => ?_
      · cases eq
      · exact InOrder.ofExcept (.ok _)
    | false =>
      refine Regime.Triple.bind (InOrder.request (fun _ _ key eq => by cases eq) fun h answered => ?_)
        fun _ => InOrder.ofExcept (.ok _)
      cases answered with
      | begin => exact ⟨rfl, fun mem => absurd mem (Set.notMem_empty _)⟩
      | beginAgain inside => exact ⟨inside, h.2⟩

/-- A schema is brought up to date with the locks taken in order, unless the common one is held already and
that of the prefix is not. -/
theorem inOrder_ensure (prefixed : hash site.prefixLock = own) :
    InOrder S hash own (hash Site.commonLock) (fun s => Ordered own (hash Site.commonLock) s.locks)
      (UpkeepCall.ensure site).work fun _ _ => True := by
  have work : InOrder S hash own (hash Site.commonLock) (Holding S (Ordered own (hash Site.commonLock)))
      (do Site.lock site.prefixLock; let outcome ← site.bringUpToDate; site.claim; return outcome)
      fun _ _ => True := by
    refine Regime.Triple.bind (InOrder.lock fun locks ordered => .inl ⟨prefixed, ordered⟩) fun _ => ?_
    rw [prefixed]
    refine inOrder_bringUpToDate.bind fun outcome => InOrder.of_asks ?_
    exact (site.asks_claim.imp fun _ => takesNone_of_tends).bind fun _ => .pure _
  have frames {p : Talk Unit} (asks : Asks Scope.Frames p) : Asks TakesNone p :=
    asks.imp fun _ => takesNone_of_frames
  refine Regime.Triple.bind (M := fun _ _ _ => True) ?_ fun _ => InOrder.of_asks (.pure ())
  refine inOrder_enter.bind fun scope => Regime.Triple.bind work.attempt fun result => ?_
  cases result with
  | ok outcome => exact InOrder.of_asks ((frames scope.asks_keep).bind fun _ => .pure _)
  | error failure => exact InOrder.of_asks ((frames scope.asks_undo).attempt.bind fun _ => .ofExcept _)

end Call

/-! ## Two sessions of one tenant -/

section Two
variable {may : System Bool obliging String UpkeepCall → Bool → UpkeepCall → Prop}

/-- A schema without a prefix. -/
def plainSite : Site := { documents := true }

/-- The call that opens a transaction. -/
def UpkeepCall.opening : UpkeepCall := .other Talk.begin

/-- A transaction may always be opened. -/
lemma usual_opening {key : Bool → String} (s : System Bool obliging String UpkeepCall) (i : Bool) :
    Usual key s i .opening :=
  Asks.request fun _ eq => by cases eq

/-- Each of two sessions opens a transaction. -/
lemma exists_opened (may : System Bool obliging String UpkeepCall → Bool → UpkeepCall → Prop)
    (allowed : ∀ s i, may s i .opening) :
    ∃ s, Interleaving.Reachable id (fun _ => UpkeepCall.work) may s ∧
      ∀ i, At .first (s.sessions i) ∧ s.calls i = none ∧ s.past i = [.opening] := by
  obtain ⟨s₁, moves₁, at₁, calls₁, past₁⟩ :
      ∃ s₁, Moves id (fun _ => UpkeepCall.work) may (.start ()) s₁ false ∧ _ :=
    exists_moves_begin rfl rfl rfl (allowed _ false) rfl
  obtain ⟨session, calls, past⟩ := moves₁.others true (by decide)
  obtain ⟨s₂, moves₂, at₂, calls₂, past₂⟩ : ∃ s₂, Moves id (fun _ => UpkeepCall.work) may s₁ s₂ true ∧ _ :=
    exists_moves_begin session calls past (allowed s₁ true) rfl
  obtain ⟨session', calls', past'⟩ := moves₂.others false (by decide)
  refine ⟨s₂, ⟨(), moves₁.steps.trans moves₂.steps⟩, fun i => ?_⟩
  cases i with
  | false => exact ⟨session' ▸ at₁, calls'.trans calls₁, past'.trans past₁⟩
  | true => exact ⟨at₂, calls₂, past₂⟩

/-- The lock of the prefix is not the common one. -/
lemma prefixLock_ne_commonLock : plainSite.prefixLock ≠ Site.commonLock := by decide

variable {s : System Bool obliging String UpkeepCall} {i : Bool} {g : Stage obliging String}

/-- In a transaction all tables are created. -/
lemma exists_moves_created (idle : s.calls i = none) (allowed : may s i (.createAll plainSite))
    (here : At g (s.sessions i)) (free : s.Free i Site.commonLock) :
    ∃ s', Moves id (fun _ => UpkeepCall.work) may s s' i ∧ At (g.locked Site.commonLock) (s'.sessions i) ∧
      s'.calls i = none ∧ s'.past i = .createAll plainSite :: s.past i :=
  exists_moves_finish idle allowed here.elim (goes_createAll (idles_obliging id s i g.work) free _ here)

/-- A session that is in a transaction asks for the lock of the prefix. -/
lemma exists_moves_prefixLock (idle : s.calls i = none) (allowed : may s i (.ensure plainSite))
    (here : At g (s.sessions i)) :
    ∃ s', Moves id (fun _ => UpkeepCall.work) may s s' i ∧
      At (g.marked Scope.savepointName) (s'.sessions i) ∧
      (∃ next, s'.calls i = some (.ensure plainSite, .ask (lockRequest plainSite.prefixLock) next)) ∧
      s'.past i = s.past i :=
  exists_moves_ask idle allowed here.elim (asked_prefixLock.first _ here)

/-- If it is free, a session asks for the common one. -/
lemma exists_moves_commonLock (idle : s.calls i = none) (allowed : may s i (.ensure plainSite))
    (here : At g (s.sessions i)) (free : s.Free i plainSite.prefixLock) :
    ∃ s', Moves id (fun _ => UpkeepCall.work) may s s' i ∧
      At ((g.marked Scope.savepointName).locked plainSite.prefixLock) (s'.sessions i) ∧
      (∃ next, s'.calls i = some (.ensure plainSite, .ask (lockRequest Site.commonLock) next)) ∧
      s'.past i = s.past i :=
  exists_moves_ask idle allowed here.elim ((asked_commonLock free trivial).first _ here)

end Two

/-! ## All sessions -/

section Sessions
variable {hash : String → K} {own common : K} {kept kept' : S.Kept} {session t : Interleaving.Session S K}
  {past : List UpkeepCall} {call : Option (UpkeepCall × Talk Unit)}

/-- Whether locks are held in order, now and at each savepoint, unless all tables were created before in the
same transaction. -/
def Disciplined (own common : K) (session : Interleaving.Session S K) (past : List UpkeepCall) : Prop :=
  (∃ x ∈ past, x.IsCreation) ∨ session.AllLocks (Ordered own common)

/-- No locks are in order. -/
lemma ordered_empty : Ordered own common ∅ := fun mem => absurd mem (Set.notMem_empty _)

/-- Outside of a transaction a session has none. -/
lemma disciplined_of_outside (settled : session.Settled) (outside : session.inTransaction = false) :
    Disciplined own common session past := .inr (.of_none ordered_empty (settled outside))

/-- The order stays with an answer, if a lock is taken only in its turn. -/
lemma Disciplined.answer {free : K → Prop} {clear : String → List Parameter → Prop} {r : Request}
    {result : Except Failure r.Answer} (h : Disciplined own common session past) (settled : session.Settled)
    (turn : ∀ key, r = lockRequest key → hash key = own ∨ hash key = common ∧ own ∈ session.locks)
    (answers : Answers hash free clear kept session r result kept' t) :
    Disciplined own common t (t.remaining past) := by
  rw [Session.remaining]
  cases inside : t.inTransaction with
  | false => exact disciplined_of_outside (answers.settled settled) inside
  | true =>
    rw [if_pos rfl]
    rcases h with created | ordered
    · exact .inl created
    · refine .inr (answers.allLocks settled ordered_empty ?_ ?_ ordered)
      · exact fun {l m} hl hm mem => ⟨hl mem.1, hm mem.2⟩
      · intro key eq
        rcases turn key eq with own | ⟨-, held⟩
        · exact fun _ => .inl own.symm
        · exact fun _ => .inr held

/-- What is so of a session while it is about a call. -/
inductive Keeps (hash : String → K) (own common : K) (kept : S.Kept) (session : Interleaving.Session S K)
    (past : List UpkeepCall) : Option (UpkeepCall × Talk Unit) → Prop where
  | idle (disciplined : Disciplined own common session past) : Keeps hash own common kept session past none
  | ensure (disciplined : Disciplined own common session past) (site : Site) {p : Talk Unit}
    (heeds : Heeds hash (lockRegime hash own common) (fun _ _ _ => True) p kept session) :
    Keeps hash own common kept session past (some (.ensure site, p))
  /-- The creation of all tables takes the common lock in any case. -/
  | createAll (site : Site) {p : Talk Unit} (asks : Asks (TakesCommon hash common) p) :
    Keeps hash own common kept session past (some (.createAll site, p))
  | other (disciplined : Disciplined own common session past) (work : Talk Unit) {p : Talk Unit}
    (asks : Asks TakesNone p) : Keeps hash own common kept session past (some (.other work, p))

/-- What is so of a session at any time. -/
structure Fits (hash : String → K) (own common : K) (kept : S.Kept) (session : Interleaving.Session S K)
    (past : List UpkeepCall) (call : Option (UpkeepCall × Talk Unit)) : Prop where
  settled : session.Settled
  among : session.AllLocks (· ⊆ {own, common})
  keeps : Keeps hash own common kept session past call

/-- What is so of a session is so whatever others have committed. -/
lemma Fits.meanwhile (h : Fits hash own common kept session past call) (kept' : S.Kept) :
    Fits hash own common kept' session past call where
  settled := h.settled
  among := h.among
  keeps := by
    cases h.keeps with
    | idle disciplined => exact .idle disciplined
    | ensure disciplined site heeds => exact .ensure disciplined site (heeds.meanwhile trivial)
    | createAll site asks => exact .createAll site asks
    | other disciplined work asks => exact .other disciplined work asks

section Answered
variable {r : Request} {next : Except Failure r.Answer → Talk Unit} {c : UpkeepCall}
  (h : Fits hash own common kept session past (some (c, .ask r next)))
include h

/-- The lock of the prefix is asked for in order, and no other lock than that and the common one. -/
lemma Fits.turn (key : String) (eq : r = lockRequest key) :
    hash key = own ∧ Ordered own common session.locks ∨ hash key = common := by
  cases h.keeps with
  | ensure _ _ heeds => exact (heeds.allows key eq).imp_right (·.1)
  | createAll _ asks => exact .inr (asks.1 key eq)
  | other _ _ asks => exact absurd eq (asks.1 key)

/-- It stays so with an answer. -/
lemma Fits.answer {free : K → Prop} {clear : String → List Parameter → Prop}
    {result : Except Failure r.Answer} (answers : Answers hash free clear kept session r result kept' t) :
    Fits hash own common kept' t (t.remaining past) (some (c, next result)) where
  settled := answers.settled h.settled
  among := by
    refine answers.allLocks h.settled (Set.empty_subset _) ?_ ?_ h.among
    · exact fun {l m} hl _ => Set.inter_subset_left.trans hl
    · intro key eq
      rw [Set.insert_subset_iff]
      refine ⟨?_, h.among.1⟩
      rcases h.turn key eq with ⟨own, -⟩ | common
      · exact .inl own
      · exact .inr common
  keeps := by
    cases h.keeps with
    | ensure disciplined site heeds =>
      refine .ensure (disciplined.answer h.settled (fun key eq => ?_) answers) site (heeds.answer answers)
      exact (heeds.allows key eq).imp_left (·.1)
    | createAll site asks => exact .createAll site (asks.2 result)
    | other disciplined work asks =>
      refine .other (disciplined.answer h.settled (fun key eq => ?_) answers) work (asks.2 result)
      exact absurd eq (asks.1 key)

end Answered

/-- A call that has come to an end counts if the transaction is still open. -/
lemma Fits.finish {c : UpkeepCall} {result : Except Failure Unit}
    (h : Fits hash own common kept session past (some (c, .done result))) :
    Fits hash own common kept session (session.remaining (c :: past)) none where
  settled := h.settled
  among := h.among
  keeps := by
    rw [Session.remaining]
    cases inside : session.inTransaction with
    | false => exact .idle (disciplined_of_outside h.settled inside)
    | true =>
      have more (disciplined : Disciplined own common session past) :
          Disciplined own common session (c :: past) := by
        refine disciplined.imp_left fun created => ?_
        obtain ⟨x, mem, creation⟩ := created
        exact ⟨x, List.mem_cons_of_mem _ mem, creation⟩
      cases h.keeps with
      | ensure disciplined => exact .idle (more disciplined)
      | createAll site => exact .idle (.inl ⟨_, List.mem_cons_self, site, rfl⟩)
      | other disciplined => exact .idle (more disciplined)

end Sessions

section Systems
variable {hash : String → K} {key : ι → String} {s s' : System ι S K UpkeepCall}

/-- It is so when a call is made with care. -/
lemma Fits.call {i : ι} {call : UpkeepCall}
    (h : Fits hash (hash (key i)) (hash Site.commonLock) s.kept (s.sessions i) (s.past i) none)
    (careful : Careful hash key s i call) :
    Fits hash (hash (key i)) (hash Site.commonLock) s.kept (s.sessions i) (s.past i)
      (some (call, call.work)) where
  settled := h.settled
  among := h.among
  keeps := by
    obtain ⟨usual, order⟩ := careful
    cases h.keeps with
    | idle disciplined =>
      cases call with
      | ensure site =>
        have ordered : Ordered (hash (key i)) (hash Site.commonLock) (s.sessions i).locks :=
          disciplined.elim (order ⟨site, rfl⟩) (·.1)
        have prefixed : hash site.prefixLock = hash (key i) := congrArg hash usual
        refine .ensure disciplined site ((inOrder_ensure prefixed s.kept _ ordered).imp ?_)
        exact fun _ _ _ _ => trivial
      | createAll site => exact .createAll site (asks_createAll hash site)
      | other work => exact .other disciplined work usual

variable [DecidableEq ι]

/-- What is so of a session at any time, for every session that can come about. -/
theorem fits_of_reachable
    (reach : Interleaving.Reachable hash (fun _ => UpkeepCall.work) (Careful hash key) s) (i : ι) :
    Fits hash (hash (key i)) (hash Site.commonLock) s.kept (s.sessions i) (s.past i) (s.calls i) := by
  refine reach.induction (P := fun s => ∀ i, Fits hash (hash (key i)) (hash Site.commonLock) s.kept
    (s.sessions i) (s.past i) (s.calls i)) (fun kept i => ?_) (fun h step => ?_) i
  · exact {
      settled := fun _ => ⟨rfl, rfl⟩
      among := .of_none (Set.empty_subset _) ⟨rfl, rfl⟩
      keeps := .idle (disciplined_of_outside (fun _ => ⟨rfl, rfl⟩) rfl) }
  · refine step.each h (fun i c careful fits => fits.call careful) (fun _ answers _ fits => ?_) Fits.finish
    exact ⟨fits.answer answers, fun j _ other => other.meanwhile _⟩

/-- How far a session has come with its locks: it holds none, or some, or the common one. -/
noncomputable def rank (common : K) (session : Interleaving.Session S K) : ℕ :=
  open Classical in if common ∈ session.locks then 2 else if session.locks = ∅ then 0 else 1

/-- Whoever waits for a session has not come as far as that. -/
lemma rank_lt_of_waits
    (reach : Interleaving.Reachable hash (fun _ => UpkeepCall.work) (Careful hash key) s) {i j : ι}
    (waits : s.Waits hash i j) :
    rank (hash Site.commonLock) (s.sessions i) < rank (hash Site.commonLock) (s.sessions j) := by
  obtain ⟨other, call, k, next, asks, held⟩ := waits
  have fits := fits_of_reachable reach i
  have missing : hash k ∉ (s.sessions i).locks := fun mem => other (exclusive_locks reach i j _ mem held)
  have turn := (asks ▸ fits).turn k rfl
  have among := fits.among.1
  have some : (s.sessions j).locks ≠ ∅ := fun none => by rw [none] at held; cases held
  by_cases common : hash k = hash Site.commonLock
  · rw [common] at missing held
    rw [rank, if_neg missing, rank, if_pos held]
    split <;> omega
  · -- The lock of the prefix is asked for by a session that holds nothing.
    obtain ⟨own, ordered⟩ := turn.resolve_right common
    have lacks : hash Site.commonLock ∉ (s.sessions i).locks := fun mem => missing (own ▸ ordered mem)
    have nothing : (s.sessions i).locks = ∅ := by
      rw [Set.eq_empty_iff_forall_notMem]
      intro x mem
      rcases among mem with rfl | rfl
      · exact missing (own ▸ mem)
      · exact lacks mem
    rw [rank, if_neg lacks, if_pos nothing, rank, if_neg some]
    split <;> omega

/-- The lock of the prefix is never asked for while only the common one is held, and no sessions wait for each
other's locks in a circle. -/
theorem lock_order
    (reach : Interleaving.Reachable hash (fun _ => UpkeepCall.work) (Careful hash key) s) :
    (∀ i call k next, s.calls i = some (call, .ask (lockRequest k) next) → hash k = hash (key i) →
      hash k ∉ (s.sessions i).locks → hash Site.commonLock ∉ (s.sessions i).locks) ∧
    ∀ i, ¬ Relation.TransGen (s.Waits hash) i i := by
  constructor
  · intro i call k next asks own missing mem
    rcases (asks ▸ fits_of_reachable reach i).turn k rfl with ⟨-, ordered⟩ | common
    · exact missing (own ▸ ordered mem)
    · exact missing (common ▸ mem)
  · intro i circle
    have rises {i j : ι} (path : Relation.TransGen (s.Waits hash) i j) :
        rank (hash Site.commonLock) (s.sessions i) < rank (hash Site.commonLock) (s.sessions j) := by
      induction path with
      | single waits => exact rank_lt_of_waits reach waits
      | tail _ waits ih => exact ih.trans (rank_lt_of_waits reach waits)
    exact lt_irrefl _ (rises circle)

end Systems

/-- One of two sessions holds the lock of the prefix and asks for the common one, and the other waits for it
with no lock. -/
theorem lock_order_queue :
    ∃ s : System Bool obliging String UpkeepCall,
      Interleaving.Reachable id (fun _ => UpkeepCall.work) (Careful id fun _ => plainSite.prefixLock) s ∧
      s.Waits id false true ∧ plainSite.prefixLock ∉ (s.sessions false).locks ∧
      Site.commonLock ∉ (s.sessions false).locks ∧ ∀ i, ¬ Relation.TransGen (s.Waits id) i i := by
  have careful (s : System Bool obliging String UpkeepCall) (i : Bool) (past : s.past i = [.opening]) :
      Careful id (fun _ => plainSite.prefixLock) s i (.ensure plainSite) := by
    refine ⟨rfl, fun _ ⟨x, mem, site, eq⟩ => ?_⟩
    rw [past, List.mem_singleton] at mem
    cases mem.symm.trans eq
  obtain ⟨s, reach, opened⟩ := exists_opened (Careful id fun _ => plainSite.prefixLock)
    fun s i => ⟨usual_opening s i, fun ⟨site, eq⟩ => by cases eq⟩
  obtain ⟨here, idle, past⟩ := opened true
  have free : s.Free true plainSite.prefixLock := by
    intro j other
    rw [(opened j).1.locks]
    exact Set.notMem_empty _
  obtain ⟨s₁, moves, holds, -, -⟩ := exists_moves_commonLock idle (careful s true past) here free
  obtain ⟨session, calls, past'⟩ := moves.others false (by decide)
  obtain ⟨s₂, moves', none, ⟨next, asks⟩, -⟩ := exists_moves_prefixLock (calls.trans (opened false).2.1)
    (careful s₁ false (past'.trans (opened false).2.2)) (session ▸ (opened false).1)
  have reach' : Interleaving.Reachable id (fun _ => UpkeepCall.work)
      (Careful id fun _ => plainSite.prefixLock) s₂ := by
    obtain ⟨kept, steps⟩ := reach
    exact ⟨kept, (steps.trans moves.steps).trans moves'.steps⟩
  have waits : s₂.Waits id false true :=
    waits_of_held (by decide) asks ((moves'.others true (by decide)).1 ▸ holds) (Set.mem_insert _ _)
  have missing : plainSite.prefixLock ∉ (s₂.sessions false).locks := by
    rw [none.locks]
    exact Set.notMem_empty _
  obtain ⟨order, circles⟩ := lock_order reach'
  exact ⟨s₂, reach', waits, missing, order false _ _ next asks rfl missing, circles⟩

/-- Two sessions wait for each other, each of them for a lock that the other one holds: the one has created
all tables, with the common lock, and asks for the lock of the prefix in the same transaction, which the other
one has taken in order. -/
theorem locks_cross :
    ∃ s : System Bool obliging String UpkeepCall,
      Interleaving.Reachable id (fun _ => UpkeepCall.work) (Usual fun _ => plainSite.prefixLock) s ∧
      s.past false = [.createAll plainSite, .opening] ∧
      (∃ next, s.calls false = some (.ensure plainSite, .ask (lockRequest plainSite.prefixLock) next)) ∧
      plainSite.prefixLock ∉ (s.sessions false).locks ∧ Site.commonLock ∈ (s.sessions false).locks ∧
      s.Waits id false true ∧ s.Waits id true false := by
  obtain ⟨s, ⟨kept, steps⟩, opened⟩ := exists_opened (Usual fun _ => plainSite.prefixLock) usual_opening
  obtain ⟨here, idle, past⟩ := opened false
  have free : s.Free false Site.commonLock := by
    intro j other
    rw [(opened j).1.locks]
    exact Set.notMem_empty _
  have creates : Usual (fun _ => plainSite.prefixLock) s false (.createAll plainSite) := trivial
  have ensures (s : System Bool obliging String UpkeepCall) (i : Bool) :
      Usual (fun _ => plainSite.prefixLock) s i (.ensure plainSite) := rfl
  obtain ⟨s₁, moves₁, common, idle₁, past₁⟩ := exists_moves_created idle creates here free
  obtain ⟨s₂, moves₂, common, ⟨next, asks⟩, past₂⟩ :=
    exists_moves_prefixLock idle₁ (ensures s₁ false) common
  obtain ⟨session, calls, -⟩ := moves₁.others true (by decide)
  obtain ⟨session', calls', -⟩ := moves₂.others true (by decide)
  have missing : plainSite.prefixLock ∉ (s₂.sessions false).locks := by
    rw [common.locks]
    rintro (eq | mem)
    · exact prefixLock_ne_commonLock eq
    · cases mem
  have free' : s₂.Free true plainSite.prefixLock := by
    intro j other
    obtain rfl : j = false := Bool.eq_false_of_not_eq_true other
    exact missing
  have here' : At .first (s₂.sessions true) := session' ▸ session ▸ (opened true).1
  obtain ⟨s₃, moves₃, both, ⟨next', asks'⟩, -⟩ :=
    exists_moves_commonLock (calls'.trans (calls.trans (opened true).2.1)) (ensures s₂ true) here' free'
  obtain ⟨session'', calls'', past''⟩ := moves₃.others false (by decide)
  -- The other session takes its lock while the first one asks, which holds what it held.
  rw [← session''] at common missing
  rw [← calls''] at asks
  have reach := ((steps.trans moves₁.steps).trans moves₂.steps).trans moves₃.steps
  refine ⟨s₃, ⟨kept, reach⟩, ?_, ⟨next, asks⟩, missing, ?_,
    waits_of_held (by decide) asks both (Set.mem_insert _ _),
    waits_of_held (by decide) asks' common (Set.mem_insert _ _)⟩
  · rw [past'', past₂, past₁, past]
  · rw [common.locks]
    exact Set.mem_insert _ _

end Schema
end Tenancy
