import Tenancy.Proofs.Schema.Ledger

/-!
# Questions about settings

What the upkeep of a schema makes of the answers to its questions. A `Footing` is what its statements have
to stand on: that whatever a statement about data does is done inside a transaction, of whose data
something is known before and after. There are rules for each question, of which `triple_setting` is the
main one. Where data are `Settled` the upkeep asks and changes nothing (`triple_settled`).
-/

namespace Tenancy
open Schema

namespace Engine.Ledger
variable {e : Engine} (ledger : e.Ledger) (c : Connection) (d : e.Data)

/-- Whether a connection finds its table of settings. -/
def Has : Prop := ledger.present (ledger.contents d (c.table settingsTable))

/-- The entry of a key in that table. -/
def entry (key : String) : Option SettingEntry :=
  ledger.stored (ledger.contents d (c.table settingsTable)) key

end Engine.Ledger

namespace Schema
open Connection Engine Sql
variable {e : Engine}

/-- The work that `Site.ensure` does in its scope. -/
def Site.upkeep (s : Site) : Talk Outcome := do
  Site.lock s.prefixLock
  let outcome ← s.bringUpToDate
  s.claim
  return outcome

/-- To bring a schema up to date is the upkeep inside of a scope. -/
lemma Site.ensure_eq (s : Site) : s.ensure = Scope.around s.upkeep := rfl

/-- The version that an entry says. -/
def Site.versionIn (s : Site) (x : Option SettingEntry) : Except Failure Int :=
  s.decode versionKey x >>= fun v => (versionOf v).mapError .schema

/-- Whether data hold a schema that is up to date, with a prefix that is the tenant's. -/
structure Settled (ledger : e.Ledger) (c : Connection) (site : Site) (d : e.Data) : Prop where
  has : ledger.Has c d
  current : site.versionIn (ledger.entry c d versionKey) = .ok currentVersion
  owned : ∀ p tenant, site.tablePrefix = some p → site.tenant = some tenant →
    site.decode tenantKey (ledger.entry c d tenantKey) = .ok (some (.str tenant))

/-! ## What is asked for a setting -/

/-- A reply to the query for a setting has the row of its entry, if there is one. -/
structure Answered (ledger : e.Ledger) (c : Connection) (site : Site) (key : String)
    (P : e.Data → Prop) (reply : Reply) (d : e.Data) : Prop where
  data : P d
  types : reply.columns.map (·.type) = ["jsonb", "bytea"]
  rows : reply.rows = (ledger.entry c d key).toList.map (SettingEntry.row site.documents)

section Query
variable {c : Connection} {site : Site} {key : String} {P : e.Data → Prop}

/-- The first row of such a reply says what the entry says. -/
lemma Answered.told {ledger : e.Ledger} {reply : Reply} {d : e.Data} (h : Answered ledger c site key P reply d)
    {columns : List Column} (same : columns = reply.columns) :
    P d ∧ site.decode key (ledger.entry c d key) = site.told key columns reply.rows.head? :=
  ⟨h.data, Site.decode_eq_told (by rw [same]; exact h.types) h.rows⟩

variable (legible : Legible c) (ledger : e.Ledger)
include legible ledger

/-- The query for a setting is a statement about data that has the parameter it takes. -/
lemma ofSql_query (site : Site) (key : String) :
    Reading.ofSql (c.adapt site.settingQuery) = .work ∧
      e.misfit (c.adapt site.settingQuery) [.text key] = none := by
  have statement : StartsWithVerb site.settingQuery := Site.Statement.settingQuery.startsWithVerb
  refine ⟨ofSql_adapt legible.legacy statement, ?_⟩
  rw [legible.adapt_settingQuery]
  exact (ledger.fits (settingsName_table c) key).2.2 _

/-- It is answered, and changes nothing. -/
lemma answered_query (site : Site) (key : String) (has : ∀ d, P d → ledger.Has c d) (d : e.Data)
    (hd : P d) :
    Answered ledger c site key P (e.effect (c.adapt site.settingQuery) [.text key] d).1
      (e.effect (c.adapt site.settingQuery) [.text key] d).2 := by
  rw [legible.adapt_settingQuery]
  obtain ⟨same, types, rows⟩ :=
    ledger.reads site.documents key d (settingsName_table c) (has d hd)
  rw [same]
  exact ⟨hd, types, rows⟩

end Query

/-! ## Footings -/

/-- What statements about data stand on: a client that is held inside a transaction, and for each property
of data what it means that it is `good` there. A statement leads from one property to another, or into
something `bad`. -/
structure Footing (e : Engine) (c : Connection) where
  client : Client
  held : c.client? = some client
  inside : c.inTransaction = true
  good : (e.Data → Prop) → State e → Prop
  bad : State e → Prop
  mono : ∀ {P Q : e.Data → Prop}, (∀ d, P d → Q d) → ∀ s, good P s → good Q s
  exists_data : ∀ {P : e.Data → Prop} {s : State e}, good P s → ∃ d, P d
  run : ∀ {P : e.Data → Prop} {Q : Reply → e.Data → Prop} {sql : String} {ps : List Parameter},
    Reading.ofSql sql = .work → e.misfit sql ps = none →
    (∀ d, P d → Q (e.effect sql ps d).1 (e.effect sql ps d).2) →
    ∀ s, good P s → Leaves (fun reply => good (Q reply)) bad (Server.run client sql ps s)

namespace Footing
variable {c : Connection} (f : Footing e c) {α : Type} {P Q : e.Data → Prop}

/-- Whether it does no harm that something fails where data are as `P` says. -/
def Excused (P : e.Data → Prop) : Prop := ∀ s, f.good P s → f.bad s

/-- What is so of no data needs no excuse. -/
lemma excused_of_not (none : ∀ d, ¬ P d) : f.Excused P := fun _ h => by
  obtain ⟨d, hd⟩ := f.exists_data h
  exact absurd hd (none d)

variable {f}

/-- What all data that count have in common may be used. -/
lemma of_forall {φ : Prop} {p : Talk α} {S : α → State e → Prop} (known : ∀ d, P d → φ)
    (h : φ → Talk.Triple c (f.good P) p S f.bad) : Talk.Triple c (f.good P) p S f.bad := by
  intro s like good
  obtain ⟨d, hd⟩ := f.exists_data good
  exact h (known d hd) s like good

/-- A result that is known is given, unless it is a failure. -/
lemma triple_ofExcept {result : Except Failure α} {Q : α → e.Data → Prop}
    (ok : ∀ a, result = .ok a → ∀ d, P d → Q a d)
    (error : ∀ failure, result = .error failure → f.Excused P) :
    Talk.Triple c (f.good P) (.ofExcept result : Talk α) (fun a => f.good (Q a)) f.bad :=
  .done (fun a eq _ => f.mono (ok a eq) _) fun failure eq => error failure eq

section Questions
variable {site : Site} (legible : Legible c) (ledger : e.Ledger)
include legible ledger

/-- To take a lock leaves the data. -/
lemma triple_lock (key : String) :
    Talk.Triple c (f.good P) (Site.lock key) (fun _ => f.good P) f.bad := by
  refine .bind (Q := fun _ => f.good P) ?_ fun _ => .pure () fun _ h => h
  refine .execute f.held f.inside fun s good => ?_
  rw [legible.adapt_lock]
  have reading : Reading.ofSql Sent.lock = .work := by
    rw [← legible.adapt_lock]
    exact ofSql_adapt legible.legacy ⟨"SELECT", by decide, by decide⟩
  refine f.run reading (ledger.fits (settingsName_table c) key).2.1 (fun d hd => ?_) s good
  rwa [ledger.locks]

omit legible in
/-- The question whether there is a table of settings is answered. -/
lemma triple_tableExists :
    Talk.Triple c (f.good P) (Talk.tableExists settingsTable)
      (fun found => f.good fun d => P d ∧ (ledger.Has c d ↔ found)) f.bad := by
  let answered (reply : Reply) (d : e.Data) : Prop :=
    P d ∧ truth? reply = .ok (ledger.present (ledger.contents d (c.table settingsTable)))
  refine .tableExists_reply f.held f.inside
    (Q := fun reply => f.good (answered reply)) (fun s good => ?_) fun reply s good => ?_
  · refine f.run ofSql_existsQuery (ledger.fits (settingsName_table c) "").1 (fun d hd => ?_) s good
    obtain ⟨same, truth⟩ := ledger.asks d (settingsName_table c)
    rw [same]
    exact ⟨hd, truth⟩
  -- The reply is the same for all data that it can come from, so any of them tells what it says.
  · obtain ⟨d, -, truth⟩ := f.exists_data good
    rw [truth]
    refine f.mono (fun d' h => ⟨h.1, ?_⟩) s good
    have same : ledger.present (ledger.contents d' (c.table settingsTable)) =
        ledger.present (ledger.contents d (c.table settingsTable)) :=
      Except.ok.inj (h.2.symm.trans truth)
    rw [Ledger.Has, same]

/-- The query for a setting tells what its entry says. -/
theorem triple_query {key : String} (has : ∀ d, P d → ledger.Has c d) :
    Talk.Triple c (f.good P) (site.query key)
      (fun told => f.good fun d => P d ∧ site.decode key (ledger.entry c d key) = told) f.bad := by
  obtain ⟨reading, fits⟩ := ofSql_query legible ledger site key
  refine .query f.held f.inside (Q := fun reply => f.good (Answered ledger c site key P reply))
    (fun s good => ?_) fun cursor reply columns => ?_
  · exact f.run reading fits (answered_query legible ledger site key has) s good
  · refine of_forall (φ := reply.columns.map (·.type) = ["jsonb", "bytea"]) (fun d h => h.types)
      fun types => ?_
    rw [isEmpty_of_types types, if_neg Bool.false_ne_true]
    exact .pure _ fun s => f.mono (fun d h => h.told columns) s

/-- A setting is what its entry says. -/
theorem triple_setting {key : String} (has : ∀ d, P d → ledger.Has c d)
    (excused : ∀ failure, f.Excused fun d =>
      P d ∧ site.decode key (ledger.entry c d key) = .error failure) :
    Talk.Triple c (f.good P) (site.setting? key)
      (fun v => f.good fun d => P d ∧ site.decode key (ledger.entry c d key) = .ok v) f.bad := by
  rw [Site.setting?_eq]
  refine .bind (triple_query legible ledger has) fun told => ?_
  refine triple_ofExcept (fun v eq d h => ⟨h.1, h.2.trans eq⟩) fun failure eq s good => ?_
  exact excused failure s (f.mono (fun d h => ⟨h.1, h.2.trans eq⟩) s good)

/-- The version is read as the entry has it. -/
lemma triple_version (has : ∀ d, P d → ledger.Has c d)
    (excused : ∀ failure, f.Excused fun d =>
      P d ∧ site.versionIn (ledger.entry c d versionKey) = .error failure) :
    Talk.Triple c (f.good P) site.version
      (fun n => f.good fun d => P d ∧ site.versionIn (ledger.entry c d versionKey) = .ok n)
      f.bad := by
  refine .bind (triple_setting legible ledger has fun failure s good => ?_) fun v => ?_
  · refine excused failure s (f.mono (fun d h => ⟨h.1, ?_⟩) s good)
    rw [Site.versionIn, h.2]
    rfl
  · have said (d : e.Data) (h : site.decode versionKey (ledger.entry c d versionKey) = .ok v) :
        site.versionIn (ledger.entry c d versionKey) = (Site.versionOf v).mapError .schema := by
      rw [Site.versionIn, h]
      rfl
    refine triple_ofExcept (fun n eq d h => ⟨h.1, (said d h.2).trans eq⟩) fun failure eq s good => ?_
    exact excused failure s (f.mono (fun d h => ⟨h.1, (said d h.2).trans eq⟩) s good)

/-! ## Settled schemas -/

/-- Where the schema is up to date, nothing is done to it. -/
lemma triple_current (settled : ∀ d, P d → Settled ledger c site d) :
    Talk.Triple c (f.good P) site.bringUpToDate
      (fun outcome s => outcome = .upToDate ∧ f.good P s) f.bad := by
  -- Each answer is the one that settled data give, which decides each of the tests.
  refine .bind (triple_tableExists ledger) fun found => ?_
  refine of_forall (φ := found = true) (fun d h => h.2.1 (settled d h.1).has) ?_
  rintro rfl
  rw [if_pos rfl]
  refine .bind (triple_version legible ledger (fun d h => (settled d h.1).has)
    fun failure => f.excused_of_not fun d h => ?_) fun stored => ?_
  · rw [(settled d h.1.1).current] at h
    cases h.2
  · refine of_forall (φ := stored = currentVersion) (fun d h => ?_) ?_
    · rw [(settled d h.1.1).current] at h
      exact (Except.ok.inj h.2).symm
    · rintro rfl
      rw [if_neg (Int.lt_irrefl _), if_neg (Int.lt_irrefl _)]
      exact .pure _ fun s good => ⟨rfl, f.mono (fun d h => h.1.1) s good⟩

/-- Where the tenant owns the prefix, or there is nobody to own one, nothing is claimed. -/
lemma triple_owned (settled : ∀ d, P d → Settled ledger c site d) :
    Talk.Triple c (f.good P) site.claim (fun _ => f.good P) f.bad := by
  unfold Site.claim
  split
  · next p tenant own name =>
    refine .bind (triple_setting legible ledger (fun d h => (settled d h).has)
      fun failure => f.excused_of_not fun d h => ?_) fun owner => ?_
    · rw [(settled d h.1).owned p tenant own name] at h
      cases h.2
    · refine of_forall (φ := owner = some (.str tenant)) (fun d h => ?_) ?_
      · rw [(settled d h.1).owned p tenant own name] at h
        exact (Except.ok.inj h.2).symm
      · rintro rfl
        dsimp only
        rw [if_pos rfl]
        exact .pure () fun s => f.mono (fun d h => h.1) s
  · exact .pure () fun _ h => h

/-- The upkeep of a settled schema changes nothing. -/
theorem triple_settled (settled : ∀ d, P d → Settled ledger c site d) :
    Talk.Triple c (f.good P) site.upkeep
      (fun outcome s => outcome = .upToDate ∧ f.good P s) f.bad := by
  refine .bind (triple_lock legible ledger _) fun _ => ?_
  refine .bind (triple_current legible ledger settled) fun outcome => ?_
  intro s like h
  obtain ⟨rfl, good⟩ := h
  exact Talk.Triple.bind (triple_owned legible ledger settled) (fun _ => .pure _ fun _ good => ⟨rfl, good⟩)
    s like good

end Questions
end Footing
end Schema
end Tenancy
