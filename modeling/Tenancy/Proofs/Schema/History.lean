import Tenancy.Proofs.Schema.DatabaseLedger
import Tenancy.Proofs.Schema.Recording
import Tenancy.Proofs.Schema.Sight

/-!
# What settings read back as

Several connections, some with documents and some without, write settings into one table: `History` is what
they write, one call after the other. A setting reads back as it was written last, for every one of them
(`History.reads_back`), but for one case: a call without documents leaves the document of an earlier call
where it is, and whoever uses documents goes on reading that one (`History.reads_document`).
-/

namespace Tenancy

namespace Engine
open Schema Connection Sql Text

/-- A ledger that takes every setting whose value is read back from its text. -/
structure Archive (e : Engine) extends Ledger e where
  records : ∀ (documents : Bool) {table : String} (key : String) {value : Json} (d : e.Data),
    SettingsName table → Json.parse? value.text = some value → present (contents d table) →
    let d' := (e.effect (Sent.settingStatement documents table)
      (settingParameters documents key value) d).2
    present (contents d' table) ∧
      Written documents value (stored (contents d table) key) (stored (contents d' table) key) ∧
      ∀ other ≠ key, stored (contents d' table) other = stored (contents d table) other
  /-- The statement that writes a setting has the parameters that it takes. -/
  takes : ∀ (documents : Bool) {table : String} (key : String) (value : Json), SettingsName table →
    e.misfit (Sent.settingStatement documents table) (settingParameters documents key value) = none

variable {fate : Nat → String → Fate}

/-- No setting misfits a database. -/
lemma misfit_settingStatement (documents : Bool) {table : String} (name : SettingsName table)
    (key : String) (value : Json) :
    (ofDatabase fate).misfit (Sent.settingStatement documents table)
      (settingParameters documents key value) = none := by
  have counts : parameterCount (Sent.settingStatement documents table) = if documents then 3 else 2 := by
    unfold Sent.settingStatement
    rw [String.append_assoc, parameterCount_append _ name (by decide), parameterCount]
    cases documents with
    | _ =>
      simp only [if_true, Bool.false_eq_true, if_false, String.toList_append]
      repeat rw [String.toList_ofList]
      decide +kernel
  change ScriptedServer.misfit? _ _ = none
  unfold ScriptedServer.misfit? ScriptedServer.kinds
  rw [counts, ofSql_settingStatement name]
  cases documents with
  | true => rfl
  | false => rfl

/-- The archive of the engine that follows a script. -/
def databaseArchive (fate : Nat → String → Fate) : Archive (ofDatabase fate) where
  toLedger := databaseLedger fate
  records documents _ key _ d name faithful present := by
    simp only [databaseLedger, databaseTables] at present ⊢
    exact effect_settingStatement documents name key faithful d present
  takes documents _ key value name := misfit_settingStatement documents name key value

end Engine

namespace Schema
open Connection Engine Sql Text
variable {e : Engine} {site : Site} {key : String} {s s₁ : Scene (State e)} {P : e.Data → Prop}

/-! ## One call -/

/-- A setting that was written is what its entry says from then on, and other entries are what they were. -/
theorem Sees.setSetting {archive : Archive e} {value : Json} (legible : Legible s.connection)
    (faithful : Json.parse? value.text = some value) (sees : Sees P s) (alone : Alone s)
    (has : ∀ d, P d → archive.Has s.connection d)
    (done : carry (site.setSetting key value) s = (.ok (), s₁)) :
    Sees (Rewritten archive.toLedger s.connection site key value P) s₁ := by
  have statement : StartsWithVerb site.settingStatement :=
    Site.Statement.settingStatement.startsWithVerb
  have effect (d : e.Data) (hd : P d) : Rewritten archive.toLedger s.connection site key value P
      (e.effect (s.connection.adapt site.settingStatement)
        (settingParameters site.documents key value) d).2 := by
    rw [legible.adapt_settingStatement]
    obtain ⟨still, written, others⟩ :=
      archive.records site.documents key d (settingsName_table s.connection) faithful (has d hd)
    exact ⟨still, d, hd, written, others⟩
  have left : Leaves (Replies fun _ => Rewritten archive.toLedger s.connection site key value P)
      (fun _ => True)
      (outcome (Connection.execute site.settingStatement
        (settingParameters site.documents key value)) s) :=
    sees.execute (ofSql_adapt legible.legacy statement) effect alone
  change carry (Talk.execute site.settingStatement (settingParameters site.documents key value) >>=
    fun _ => pure ()) s = _ at done
  rw [carry_bind, carry_execute] at done
  rcases ran : outcome (Connection.execute site.settingStatement (settingParameters site.documents key value)) s
    with ⟨failure | cursor, s'⟩
  · rw [ran] at done
    cases done
  · rw [ran] at done left
    cases done
    obtain ⟨reply, -, -, sees⟩ := left
    exact sees

/-- A setting reads as its entry says, where nothing stands in the way, and reading it changes nothing. -/
theorem Sees.setting? (ledger : e.Ledger) (legible : Legible s.connection) (sees : Sees P s)
    (has : ∀ d, P d → ledger.Has s.connection d) (complies : s.world.server.Complies) (lent : Lent s) :
    ∃ told s₁, carry (site.setting? key) s = (told, s₁) ∧
      Sees (fun d => P d ∧ site.decode key (ledger.entry s.connection d key) = told) s₁ := by
  obtain ⟨reading, fits⟩ := ofSql_query legible ledger site key
  obtain ⟨cursor, s', ran⟩ := sees.execute_succeeds reading fits complies lent
  have left := sees.execute reading (answered_query legible ledger site key has) (sees.alone lent)
  rw [ran] at left
  obtain ⟨reply, columns, results, after⟩ := left
  -- The first row of the reply is fetched, and it says what the entry says.
  obtain ⟨d, h⟩ := after.exists_data
  rw [isEmpty_of_types h.types, if_neg Bool.false_ne_true] at results
  have fetched : ((s'.world.results[cursor.number]?.getD []).take 1).head? = reply.rows.head? := by
    rw [results, Option.getD_some, List.head?_take, if_neg Nat.one_ne_zero]
  rw [Site.setting?_eq, Site.query, carry_bind, carry_bind, carry_execute, ran]
  dsimp only
  rw [carry_bind, carry_fetchOne, outcome_fetchOne]
  dsimp only
  rw [fetched]
  exact ⟨_, _, rfl, (after.mono fun d h => h.told columns).congr (.refl _) rfl⟩

/-- A setting is written where nothing stands in the way. -/
lemma Sees.setSetting_succeeds (archive : Archive e) {value : Json} (legible : Legible s.connection)
    (sees : Sees P s) (complies : s.world.server.Complies) (lent : Lent s) (site : Site) (key : String) :
    ∃ s₁, carry (site.setSetting key value) s = (.ok (), s₁) := by
  have statement : StartsWithVerb site.settingStatement :=
    Site.Statement.settingStatement.startsWithVerb
  have fits : e.misfit (s.connection.adapt site.settingStatement)
      (settingParameters site.documents key value) = none := by
    rw [legible.adapt_settingStatement]
    exact archive.takes site.documents key value (settingsName_table s.connection)
  obtain ⟨cursor, s', ran⟩ :=
    sees.execute_succeeds (ofSql_adapt legible.legacy statement) fits complies lent
  refine ⟨s', ?_⟩
  change carry (Talk.execute site.settingStatement (settingParameters site.documents key value) >>=
    fun _ => pure ()) s = _
  rw [carry_bind, carry_execute, ran]
  rfl

/-! ## Many calls -/

/-- A connection finds a table of settings as it is described. -/
structure Finds (archive : Archive e) (table : String) (x : archive.Contents) (s : Scene (State e)) :
    Prop where
  legible : Legible s.connection
  name : s.connection.table settingsTable = table
  sees : Sees (fun d => archive.contents d table = x) s

/-- Data that are found in a table that is there have it. -/
lemma Finds.has {archive : Archive e} {table : String} {x : archive.Contents}
    (h : Finds archive table x s) (present : archive.present x) (d : e.Data)
    (eq : archive.contents d table = x) : archive.Has s.connection d := by
  unfold Ledger.Has
  rw [h.name, eq]
  exact present

/-- A call that writes a setting. -/
structure Write where
  /-- Whether documents were used. -/
  documents : Bool
  key : String
  value : Json

/-- What calls that succeeded make of a table of settings, one after the other and whoever makes them. Each
of them finds the table as the one before left it. The latest call stands first. -/
inductive History (archive : Archive e) (table : String) (first : archive.Contents) :
    List Write → archive.Contents → Prop where
  | start : History archive table first [] first
  | write {ws : List Write} {x x' : archive.Contents} {s s₁ : Scene (State e)} {value : Json}
    (history : History archive table first ws x) (site : Site) (key : String)
    (faithful : Json.parse? value.text = some value) (alone : Alone s)
    (before : Finds archive table x s)
    (done : carry (site.setSetting key value) s = (.ok (), s₁))
    (after : Sees (fun d => archive.contents d table = x') s₁) :
    History archive table first (⟨site.documents, key, value⟩ :: ws) x'

/-- The entry of a key after some writes: each of those for the key was written in place of what was there
before. -/
def Remains (key : String) (old : Option SettingEntry) : List Write → Option SettingEntry → Prop
  | [], x => x = old
  | w :: ws, x =>
    if w.key = key then
      Json.parse? w.value.text = some w.value ∧
        ∃ y, Remains key old ws y ∧ Written w.documents w.value y x
    else Remains key old ws x

/-- The last write for a key. -/
def lastWrite (key : String) (ws : List Write) : Option Write := ws.find? (·.key = key)

/-- The last write for a key by a call that used documents. -/
def lastDocument (key : String) (ws : List Write) : Option Write :=
  ws.find? fun w => w.key = key ∧ w.documents

/-- Whether a document was left behind for a key: the last call did without documents, and there was one
already. -/
def Stale (key : String) (old : Option SettingEntry) (ws : List Write) : Prop :=
  (∃ w, lastWrite key ws = some w ∧ w.documents = false) ∧
    (old.bind (·.document) ≠ none ∨ lastDocument key ws ≠ none)

section Remains
variable {old x : Option SettingEntry} {ws : List Write} {w : Write}

/-- The bytes of an entry are those of the last write. -/
lemma Remains.bytes (h : Remains key old ws x) (last : lastWrite key ws = some w) :
    Json.parse? w.value.text = some w.value ∧
      ∃ y, x = some y ∧ y.bytes = some (utf8Bytes w.value.text.toList) := by
  induction ws generalizing x with
  | nil => cases last
  | cons v ws ih =>
    unfold Remains at h
    unfold lastWrite at last ih
    by_cases own : v.key = key
    · rw [if_pos own] at h
      rw [List.find?_cons_of_pos (by simpa using own)] at last
      cases last
      obtain ⟨faithful, y, -, z, rfl, bytes, -⟩ := h
      exact ⟨faithful, z, rfl, bytes⟩
    · rw [if_neg own] at h
      rw [List.find?_cons_of_neg (by simpa using own)] at last
      exact ih h last

/-- The document of an entry is that of the last write with documents. -/
lemma Remains.document (h : Remains key old ws x) (last : lastDocument key ws = some w) :
    ∃ y bs, x = some y ∧ y.document = some bs ∧ Cell.ofBytes "jsonb" bs = .json w.value := by
  induction ws generalizing x with
  | nil => cases last
  | cons v ws ih =>
    unfold Remains at h
    unfold lastDocument at last ih
    by_cases own : v.key = key
    · rw [if_pos own] at h
      obtain ⟨-, y, remains, z, rfl, -, document⟩ := h
      cases used : v.documents with
      | true =>
        rw [List.find?_cons_of_pos (by simp [own, used])] at last
        cases last
        rw [used, if_pos rfl] at document
        obtain ⟨bs, document, cell⟩ := document
        exact ⟨z, bs, rfl, document, cell⟩
      | false =>
        rw [List.find?_cons_of_neg (by simp [used])] at last
        rw [used, if_neg Bool.false_ne_true] at document
        obtain ⟨y', bs, rfl, former, cell⟩ := ih remains last
        exact ⟨z, bs, rfl, document.trans former, cell⟩
    · rw [if_neg own] at h
      rw [List.find?_cons_of_neg (by simp [own])] at last
      exact ih h last

/-- Without a write with documents the document is the one that was there at first, if there was one. -/
lemma Remains.no_document (h : Remains key old ws x) (none : lastDocument key ws = none) :
    x.bind (·.document) = old.bind (·.document) := by
  induction ws generalizing x with
  | nil =>
    obtain rfl : x = old := h
    rfl
  | cons v ws ih =>
    unfold Remains at h
    unfold lastDocument at none ih
    obtain ⟨differs, rest⟩ := List.forall_mem_cons.1 (List.find?_eq_none.1 none)
    have none' : lastDocument key ws = Option.none := List.find?_eq_none.2 rest
    by_cases own : v.key = key
    · rw [if_pos own] at h
      obtain ⟨-, y, remains, z, rfl, -, document⟩ := h
      have unused : v.documents = false := by simpa [own] using differs
      rw [unused, if_neg Bool.false_ne_true] at document
      exact document.trans (ih remains none')
    · rw [if_neg own] at h
      exact ih h none'

/-- Without a write the entry is the one that was there at first. -/
lemma Remains.no_write (h : Remains key old ws x) (none : lastWrite key ws = none) : x = old := by
  induction ws with
  | nil => exact h
  | cons v ws ih =>
    unfold Remains at h
    unfold lastWrite at none ih
    obtain ⟨differs, rest⟩ := List.forall_mem_cons.1 (List.find?_eq_none.1 none)
    rw [if_neg (by simpa using differs)] at h
    exact ih h (List.find?_eq_none.2 rest)

/-- A last write that used documents is the last one that did. -/
lemma lastDocument_eq (last : lastWrite key ws = some w) (used : w.documents = true) :
    lastDocument key ws = some w := by
  induction ws with
  | nil => cases last
  | cons v ws ih =>
    unfold lastWrite at last ih
    unfold lastDocument at ih ⊢
    by_cases own : v.key = key
    · rw [List.find?_cons_of_pos (by simpa using own)] at last
      cases last
      exact List.find?_cons_of_pos (by simp [own, used])
    · rw [List.find?_cons_of_neg (by simpa using own)] at last
      rw [List.find?_cons_of_neg (by simp [own])]
      exact ih last

/-- Unless a document was left behind, an entry says what was written last. -/
theorem Remains.decode (h : Remains key old ws x) (last : lastWrite key ws = some w)
    (fresh : site.documents = true → ¬ Stale key old ws) :
    site.decode key x = .ok (some w.value) := by
  obtain ⟨faithful, y, rfl, bytes⟩ := h.bytes last
  cases used : w.documents with
  | true =>
    obtain ⟨y', bs, same, document, cell⟩ := h.document (lastDocument_eq last used)
    cases same
    cases documents : site.documents with
    | true => exact Site.decode_document documents document cell
    | false =>
      refine Site.decode_bytes (fun used' => ?_) bytes faithful
      rw [documents] at used'
      cases used'
  | false =>
    -- Bytes count where there is no document, and one would have been left behind.
    refine Site.decode_bytes (fun documents => ?_) bytes faithful
    have clear := fresh documents
    unfold Stale at clear
    rw [not_and_or, not_or, not_not, not_not] at clear
    obtain ⟨none, none'⟩ := clear.resolve_left (not_not_intro ⟨w, last, used⟩)
    exact (h.no_document none').trans none

end Remains

/-! ## What is read -/

section History
variable {archive : Archive e} {table : String} {first x : archive.Contents} {ws : List Write}

/-- What calls leave of a table is there for each of its keys. -/
theorem History.remains (h : History archive table first ws x) (present : archive.present first) :
    archive.present x ∧ ∀ key, Remains key (archive.stored first key) ws (archive.stored x key) := by
  induction h with
  | start => exact ⟨present, fun _ => rfl⟩
  | @write ws x x' s s₁ value _ site key faithful alone before done after ih =>
    obtain ⟨here, remains⟩ := ih
    have written := Sees.setSetting before.legible faithful before.sees alone (before.has here) done
    obtain ⟨d', ⟨still, d, eq, new, others⟩, eq'⟩ := (written.and after).exists_data
    unfold Ledger.Has at still
    unfold Ledger.entry at new others
    rw [before.name, eq'] at still new others
    rw [eq] at new others
    refine ⟨still, fun other => ?_⟩
    unfold Remains
    split
    · next own =>
      obtain rfl : key = other := own
      exact ⟨faithful, _, remains key, new⟩
    · next differs =>
      rw [others other (Ne.symm differs)]
      exact remains other

/-- A setting reads as its entry says. -/
lemma History.reads (h : History archive table first ws x) (present : archive.present first)
    (site : Site) (key : String) (finds : Finds archive table x s) (complies : s.world.server.Complies)
    (lent : Lent s) :
    ∃ s₁, carry (site.setting? key) s = (site.decode key (archive.stored x key), s₁) ∧
      Sees (fun d => archive.contents d table = x) s₁ := by
  have has := finds.has (h.remains present).1
  obtain ⟨told, s₁, read, after⟩ :=
    finds.sees.setting? archive.toLedger finds.legible has complies lent
  obtain ⟨d, eq, known⟩ := after.exists_data
  unfold Ledger.entry at known
  rw [finds.name, eq] at known
  rw [known]
  exact ⟨s₁, read, after.mono fun d h => h.1⟩

/-- A setting reads back as it was written last, whoever wrote it and whoever reads it, and as it did at
first if it was never written; reading it changes nothing. A connection that uses documents must not have
had one left behind by a call that did without. -/
theorem History.reads_back (h : History archive table first ws x) (present : archive.present first)
    (site : Site) (key : String) (finds : Finds archive table x s) (complies : s.world.server.Complies)
    (lent : Lent s) (fresh : site.documents = true → ¬ Stale key (archive.stored first key) ws) :
    ∃ s₁,
      carry (site.setting? key) s =
        ((lastWrite key ws).elim (site.decode key (archive.stored first key))
          fun w => .ok (some w.value), s₁) ∧
      Sees (fun d => archive.contents d table = x) s₁ := by
  obtain ⟨s₁, read, after⟩ := h.reads present site key finds complies lent
  have remains := (h.remains present).2 key
  refine ⟨s₁, ?_, after⟩
  rw [read]
  cases last : lastWrite key ws with
  | none => rw [remains.no_write last, Option.elim_none]
  | some w => rw [remains.decode last fresh, Option.elim_some]

/-- Whoever uses documents reads what was written last by a call that did, whatever was written since by
calls that did without. -/
theorem History.reads_document (h : History archive table first ws x) (present : archive.present first)
    (site : Site) (documents : site.documents = true) (key : String) {w : Write}
    (last : lastDocument key ws = some w) (finds : Finds archive table x s)
    (complies : s.world.server.Complies) (lent : Lent s) :
    ∃ s₁, carry (site.setting? key) s = (.ok (some w.value), s₁) ∧
      Sees (fun d => archive.contents d table = x) s₁ := by
  obtain ⟨s₁, read, after⟩ := h.reads present site key finds complies lent
  obtain ⟨y, bs, eq, document, cell⟩ := ((h.remains present).2 key).document last
  rw [eq, Site.decode_document documents document cell] at read
  exact ⟨s₁, read, after⟩

/-- Where nothing stands in the way a history goes on with any call. -/
theorem History.goes_on (h : History archive table first ws x) (present : archive.present first)
    (site : Site) (key : String) {value : Json} (faithful : Json.parse? value.text = some value)
    (finds : Finds archive table x s) (complies : s.world.server.Complies) (lent : Lent s) :
    ∃ x' s₁, carry (site.setSetting key value) s = (.ok (), s₁) ∧
      History archive table first (⟨site.documents, key, value⟩ :: ws) x' ∧
      Finds archive table x' s₁ := by
  have alone := finds.sees.alone lent
  obtain ⟨s₁, done⟩ :=
    Sees.setSetting_succeeds archive finds.legible finds.sees complies lent site key
  have written := Sees.setSetting finds.legible faithful finds.sees alone
    (finds.has (h.remains present).1) done
  obtain ⟨d, -, same⟩ := written.exists_eq
  have after : Sees (fun d' => archive.contents d' table = archive.contents d table) s₁ :=
    same.mono fun _ eq => by rw [eq]
  have kin : s.connection.Kin s₁.connection := by
    have kept := Kin.carry (site.setSetting key value) s
    rwa [done] at kept
  refine ⟨_, s₁, done, .write h site key faithful alone finds done after, ?_, ?_, after⟩
  · exact finds.legible.congr kin.rules kin.lease
  · rw [table_congr kin.lease]
    exact finds.name

end History

/-! ## Both kinds of connections -/

/-- A connection of its own, with each statement a transaction of its own, to an engine that takes
everything and has an empty table of settings. -/
def rehearsedSettings : Scene (State (ofDatabase fun _ _ => .accept)) :=
  let alone := Scene.rehearsal fun _ _ => .accept
  { connection := { alone.connection with autocommit := true }
    world := { alone.world with
      server := { alone.world.server with kept := { tables := [settingsTable] } } } }

/-- What an empty table of settings is. -/
def emptySettings : (databaseArchive fun _ _ => .accept).Contents := (true, none)

/-- A history of that table, after which a connection with a client of its own finds it. -/
structure Rehearsed (ws : List Write) (s : Scene (State (ofDatabase fun _ _ => .accept))) : Prop where
  own : s.connection.channel = .direct ⟨1⟩
  history : ∃ x, History (databaseArchive _) settingsTable emptySettings ws x ∧
    Finds (databaseArchive _) settingsTable x s

section Rehearsed
variable {ws : List Write} {s : Scene (State (ofDatabase fun _ _ => .accept))}

/-- Before any calls the settings are as they were rehearsed. -/
lemma rehearsed_nil : Rehearsed [] rehearsedSettings := by
  have legible : Legible rehearsedSettings.connection :=
    .of_standard (fun _ mem => mem) fun l lease => by cases lease
  refine ⟨rfl, _, .start, legible, by decide +kernel, ?_⟩
  exact .outside rfl rfl fun _ _ => ⟨rfl, rfl⟩

/-- In between the connection lends its client. -/
lemma Rehearsed.lent (h : Rehearsed ws s) : Lent s := by
  intro _ number pooled
  rw [h.own] at pooled
  cases pooled

/-- One more version is written. -/
lemma Rehearsed.write (h : Rehearsed ws s) (documents : Bool) {n : Int}
    (faithful : Json.parse? (Json.int n).text = some (.int n)) :
    ∃ s₁, Rehearsed (⟨documents, "theme", .int n⟩ :: ws) s₁ := by
  obtain ⟨x, history, finds⟩ := h.history
  obtain ⟨x', s₁, done, history, finds⟩ :=
    history.goes_on rfl { documents } "theme" faithful finds (fun _ _ _ => rfl) h.lent
  have kin : s.connection.Kin s₁.connection := by
    have kept := Kin.carry (Site.setSetting { documents } "theme" (.int n)) s
    rwa [done] at kept
  exact ⟨s₁, kin.direct _ h.own, x', history, finds⟩

end Rehearsed

/-- A setting is written without documents, then with them, and read back with documents. -/
theorem History.reads_back_mixed :
    let ws : List Write := [⟨true, "theme", .int 2⟩, ⟨false, "theme", .int 1⟩]
    let site : Site := { documents := true }
    ∃ x s, History (databaseArchive fun _ _ => .accept) settingsTable emptySettings ws x ∧
      (databaseArchive fun _ _ => .accept).present emptySettings ∧
      Finds (databaseArchive _) settingsTable x s ∧ s.world.server.Complies ∧ Lent s ∧
      (site.documents = true →
        ¬ Stale "theme" ((databaseArchive fun _ _ => .accept).stored emptySettings "theme") ws) ∧
      ∃ s₁, carry (site.setting? "theme") s = (.ok (some (.int 2)), s₁) := by
  intro ws site
  obtain ⟨s, first⟩ := rehearsed_nil.write false (n := 1) rfl
  obtain ⟨s, second⟩ := first.write true (n := 2) rfl
  obtain ⟨x, history, finds⟩ := second.history
  have fresh (_ : site.documents = true) :
      ¬ Stale "theme" ((databaseArchive fun _ _ => .accept).stored emptySettings "theme") ws := by
    rintro ⟨⟨w, last, plain⟩, -⟩
    cases last
    cases plain
  have complies : s.world.server.Complies := fun _ _ _ => rfl
  obtain ⟨s₁, read, -⟩ :=
    History.reads_back history rfl site "theme" finds complies second.lent fresh
  exact ⟨x, s, history, rfl, finds, complies, second.lent, fresh, s₁, read⟩

/-- A setting is written with documents, then without them, and read back with documents: it is the first
value that comes back. -/
theorem History.reads_back_stale :
    let ws : List Write := [⟨false, "theme", .int 2⟩, ⟨true, "theme", .int 1⟩]
    lastWrite "theme" ws = some ⟨false, "theme", .int 2⟩ ∧
    ∃ x s s₁, History (databaseArchive fun _ _ => .accept) settingsTable emptySettings ws x ∧
      Finds (databaseArchive _) settingsTable x s ∧
      carry (Site.setting? { documents := true } "theme") s = (.ok (some (.int 1)), s₁) := by
  intro ws
  obtain ⟨s, first⟩ := rehearsed_nil.write true (n := 1) rfl
  obtain ⟨s, second⟩ := first.write false (n := 2) rfl
  obtain ⟨x, history, finds⟩ := second.history
  obtain ⟨s₁, read, -⟩ :=
    history.reads_document rfl { documents := true } rfl "theme" rfl finds (fun _ _ _ => rfl) second.lent
  exact ⟨rfl, x, s, s₁, history, finds, read⟩

end Schema
end Tenancy
