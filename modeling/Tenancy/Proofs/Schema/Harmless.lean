import Tenancy.Proofs.Connection.Sparing
import Tenancy.Proofs.Schema.Footing
import Tenancy.Proofs.Schema.Scope

/-!
# Upkeep that has nothing to do

Where the upkeep of a schema finds it up to date, the engine receives nothing that builds a schema, and
nothing that writes the version (`harmless_ensure`): neither of these is among the statements on the way there,
which end where the version was read, nor does the tenant's claim send any.
-/

namespace Tenancy

namespace Engine.State
variable {e : Engine} {A : Received → Prop} {s₀ s s' : State e} {k : Client} {sql : String}

/-- Whatever was received since a state is as `A` says. -/
def Hears (A : Received → Prop) (s₀ s : State e) : Prop :=
  ∃ new, s.log = new ++ s₀.log ∧ ∀ x ∈ new, A x.2

/-- A server that has heard no more has heard nothing harmful. -/
lemma Hears.refl (s : State e) : Hears A s s := ⟨[], rfl, by simp⟩

/-- To obey writes nothing into the log. -/
lemma log_obey {ps : List Parameter} {reply : Reply} (h : s.obey k sql ps = .ok (reply, s')) :
    s'.log = s.log := by
  cases inside : (s.sessions k).transaction with
  | some t =>
    by_cases ends : (Reading.ofSql sql).isEnd
    · unfold obey at h
      rw [inside] at h
      cases reading : Reading.ofSql sql with
      | commit =>
        rw [reading] at h
        cases h
        dsimp only [setSession]
        split
        · rfl
        · rfl
      | rollback =>
        rw [reading] at h
        cases h
        rfl
      | _ =>
        rw [reading] at ends
        cases ends
    · obtain ⟨t', -, rfl⟩ := exists_of_obey inside (by simpa using ends) h
      rfl
  | none =>
    unfold obey at h
    rw [inside] at h
    cases reading : Reading.ofSql sql <;> rw [reading] at h <;> cases h <;> rfl

/-- Nor does it to refuse. -/
lemma log_refuse (s : State e) (k : Client) (sql : String) : (s.refuse k sql).log = s.log := by
  unfold refuse
  split
  · rfl
  · rfl
  · rfl
  · rfl

/-- Whatever comes of a statement, it is all that is received. -/
lemma Hears.receive (h : Hears A s₀ s) {r : Received} (admitted : A r) (misfit : Option Mismatch)
    (sql : String) (ps : List Parameter) : Hears A s₀ (s.receive k r misfit sql ps).2 := by
  have noted {s' : State e} (log : s'.log = (s.note k r).log) : Hears A s₀ s' := by
    obtain ⟨new, eq, all⟩ := h
    refine ⟨(k, r) :: new, ?_, List.forall_mem_cons.2 ⟨admitted, all⟩⟩
    rw [log]
    exact congrArg ((k, r) :: ·) eq
  rcases receive_cases s k r misfit sql ps with ⟨-, eq⟩ | ⟨-, cases⟩
  · rw [eq]
    exact h
  · rcases cases with ⟨eq, -⟩ | ⟨report, eq⟩ | ⟨m, eq⟩ | ⟨reply, s', obeys, eq⟩
    · rw [eq]
      exact noted rfl
    · rw [eq]
      exact noted (log_refuse _ k sql)
    · rw [eq]
      exact noted rfl
    · rw [eq]
      exact noted (log_obey obeys)

end Engine.State

namespace Schema
open Connection Engine Sql

/-! ## Statements that change nothing about the schema -/

/-- Whether what was received builds a schema. -/
def Builds : Received → Prop
  | .simple sql | .prepared sql _ => StartsWith buildingVerbs sql
  | _ => False

/-- Whether what was received is about the version, and no question. -/
def WritesVersion : Received → Prop
  | .prepared sql (some (.text key :: _)) => key = versionKey ∧ ¬ StartsWith ["SELECT"] sql
  | _ => False

/-- Whether what was received neither builds a schema nor writes its version. -/
def Harmless (r : Received) : Prop := ¬ Builds r ∧ ¬ WritesVersion r

/-- A statement that starts with another word builds nothing. -/
lemma not_startsWith_of_apart {words others : List String} {sql : String} (h : StartsWith words sql)
    (apart : ∀ w ∈ words, ∀ v ∈ others, Reading.apart (v.toList ++ [' ']) (w.toList ++ [' '])) :
    ¬ StartsWith others sql := by
  obtain ⟨w, memw, rest, eq⟩ := h
  rintro ⟨v, memv, start⟩
  rw [← eq] at start
  exact Reading.not_prefix_of_apart (apart w memw v memv) rest start

/-- Questions are harmless. -/
lemma harmless_select {sql : String} (h : StartsWith ["SELECT"] sql) (ps : Option (List Parameter)) :
    Harmless (.prepared sql ps) := by
  refine ⟨not_startsWith_of_apart h (by decide), ?_⟩
  unfold WritesVersion
  split
  · next eq =>
    cases eq
    exact fun writes => writes.2 h
  · exact id

/-- The question for a table is harmless. -/
lemma harmless_existsQuery (ps : Option (List Parameter)) : Harmless (.prepared existsQuery ps) := by
  refine harmless_select ?_ ps
  unfold existsQuery
  exact .append ⟨"SELECT", by decide, by decide⟩ _

/-- So is a setting that is written, if it is not the version. -/
lemma harmless_settingStatement (documents : Bool) (table : String) {key : String} (value : Json)
    (other : key ≠ versionKey) :
    Harmless (.prepared (Sent.settingStatement documents table)
      (some (settingParameters documents key value))) := by
  have start : StartsWith ["INSERT"] (Sent.settingStatement documents table) := by
    unfold Sent.settingStatement
    exact .append (.append ⟨"INSERT", by decide, by decide⟩ _) _
  refine ⟨not_startsWith_of_apart start (by decide), ?_⟩
  cases documents with
  | true => exact fun writes => other writes.1
  | false => exact fun writes => other writes.1

/-- What a connection sends on its own is harmless. -/
lemma robust_harmless {e : Engine} (s₀ : State e) : Robust (State.Hears Harmless s₀) where
  logIn l s h := by
    change State.Hears Harmless s₀ (State.logIn l s).2
    unfold State.logIn
    split
    · exact h
    · exact h
  setSchema k name s h := by
    refine h.receive ⟨?_, id⟩ none _ []
    have start : StartsWith ["SET"] s!"SET search_path TO {name}" :=
      .append ⟨"SET", by decide, by decide⟩ _
    exact not_startsWith_of_apart start (by decide)
  command k sql mem s h := by
    refine h.receive ⟨?_, id⟩ none _ []
    have check : ∀ sql ∈ ["BEGIN", "COMMIT", "ROLLBACK"], ∀ v ∈ buildingVerbs,
        ¬ v.toList ++ [' '] <+: sql.toList := by decide
    rintro ⟨v, memv, start⟩
    exact check sql mem v memv start

/-! ## The upkeep of a schema that is up to date -/

section Pieces
variable {e : Engine} {s₀ : State e} {c : Connection} {site : Site}

/-- So it is to ask whether there is a table of settings. -/
lemma spares_tableExists :
    Talk.Spares (State.Hears Harmless s₀) c (Talk.tableExists settingsTable) :=
  .tableExists (robust_harmless s₀) fun _ _ h => h.receive (harmless_existsQuery _) _ _ _

variable (legible : Legible c)
include legible

/-- A statement about a savepoint is harmless. -/
lemma spares_savepoint {sql : String} (mem : sql ∈ savepointStatements) :
    Talk.Spares (State.Hears Harmless s₀) c (Talk.perform sql) := by
  have check : ∀ sql ∈ savepointStatements, ∀ v ∈ buildingVerbs,
      ¬ v.toList ++ [' '] <+: sql.toList := by decide
  refine .perform (robust_harmless s₀) fun k server h => ?_
  rw [legible.adapt_savepoint sql mem]
  refine h.receive ⟨?_, id⟩ _ _ _
  rintro ⟨v, memv, start⟩
  exact check sql mem v memv start

/-- So is the one that takes a lock. -/
lemma spares_lock (key : String) : Talk.Spares (State.Hears Harmless s₀) c (Site.lock key) := by
  refine .bind (.execute (robust_harmless s₀) fun k server h => ?_) fun _ => .pure ()
  rw [legible.adapt_lock]
  exact h.receive (harmless_select ⟨"SELECT", by decide, by decide⟩ _) _ _ _

/-- So is reading a setting. -/
lemma spares_setting (key : String) :
    Talk.Spares (State.Hears Harmless s₀) c (site.setting? key) := by
  refine .bind (.execute (robust_harmless s₀) fun k server h => ?_) fun cursor => ?_
  · rw [legible.adapt_settingQuery]
    refine h.receive (harmless_select ?_ _) _ _ _
    unfold Sent.settingQuery
    refine .append (.append ?_ _) _
    split
    · exact ⟨"SELECT", by decide, by decide⟩
    · exact ⟨"SELECT", by decide, by decide⟩
  · refine .bind (.fetchOne cursor) fun row => ?_
    cases row with
    | none => exact .pure none
    | some row => exact .ofExcept _

/-- So is writing one, if it is not the version. -/
lemma spares_setSetting {key : String} (value : Json) (other : key ≠ versionKey) :
    Talk.Spares (State.Hears Harmless s₀) c (site.setSetting key value) := by
  refine .bind (.execute (robust_harmless s₀) fun k server h => ?_) fun _ => .pure ()
  rw [legible.adapt_settingStatement]
  exact h.receive (harmless_settingStatement site.documents _ value other) _ _ _

/-- So is claiming the prefix. -/
lemma spares_claim : Talk.Spares (State.Hears Harmless s₀) c site.claim := by
  unfold Site.claim
  split
  · refine .bind (spares_setting legible tenantKey) fun owner => ?_
    split
    · exact spares_setSetting legible _ (by decide)
    · split
      · exact .pure ()
      · exact .ofExcept _
    · exact .ofExcept _
  · exact .pure ()

/-- So is opening a scope. -/
lemma spares_enter : Talk.Spares (State.Hears Harmless s₀) c Scope.enter := by
  refine .bind .inTransaction fun inside => ?_
  cases inside with
  | true =>
    exact .bind (spares_savepoint legible (by simp [savepointStatements])) fun _ => .pure _
  | false => exact .bind (.begin (robust_harmless s₀)) fun _ => .pure _

/-- So is closing it with what was done. -/
lemma spares_keep (scope : Scope) : Talk.Spares (State.Hears Harmless s₀) c scope.keep := by
  cases scope with
  | transaction => exact .commit (robust_harmless s₀)
  | savepoint => exact spares_savepoint legible (by simp [savepointStatements])

/-- So is reading the version. -/
lemma spares_version : Talk.Spares (State.Hears Harmless s₀) c site.version :=
  .bind (spares_setting legible versionKey) fun _ => .ofExcept _

end Pieces

section UpToDate
variable {e : Engine} {s₀ : State e} {site : Site} {s s₁ : Scene (State e)}

/-- Where a schema is found up to date, no more was done than to ask for its version. -/
lemma exists_of_upToDate {σ : Type} [Server σ] {s s₁ : Scene σ}
    (done : carry site.bringUpToDate s = (.ok .upToDate, s₁)) :
    ∃ s₂, carry (Talk.tableExists settingsTable) s = (.ok true, s₂) ∧
      carry site.version s₂ = (.ok currentVersion, s₁) := by
  rw [Site.bringUpToDate] at done
  obtain ⟨found, s₂, asked, done⟩ := exists_of_carry_bind done
  cases found with
  | false =>
    obtain ⟨-, s₃, -, done⟩ := exists_of_carry_bind done
    obtain ⟨-, s₄, -, done⟩ := exists_of_carry_bind done
    obtain ⟨-, s₅, -, done⟩ := exists_of_carry_bind done
    cases done
  | true =>
    obtain ⟨stored, s₃, read, done⟩ := exists_of_carry_bind done
    refine ⟨s₂, asked, ?_⟩
    split at done
    · cases done
    · split at done
      · obtain ⟨-, s₄, -, done⟩ := exists_of_carry_bind done
        obtain ⟨-, s₅, -, done⟩ := exists_of_carry_bind done
        obtain ⟨-, s₆, -, done⟩ := exists_of_carry_bind done
        cases done
      · next notNewer notOlder =>
        obtain rfl : stored = currentVersion := by omega
        cases done
        exact read

/-- The upkeep of a schema that is up to date sends nothing that builds a schema, and nothing that writes
the version. -/
theorem harmless_ensure (legible : Legible s.connection)
    (done : carry site.ensure s = (.ok .upToDate, s₁)) :
    State.Hears Harmless s.world.server s₁.world.server := by
  have step {α : Type} {p : Talk α} {a : α} {t t' : Scene (State e)}
      (spares : Talk.Spares (State.Hears Harmless s.world.server) s.connection p)
      (before : s.connection.Kin t.connection ∧ State.Hears Harmless s.world.server t.world.server)
      (done : carry p t = (.ok a, t')) :
      s.connection.Kin t'.connection ∧ State.Hears Harmless s.world.server t'.world.server := by
    have kin := Kin.carry p t
    have hears := spares t before.1.rules before.1.lease before.2
    rw [done] at kin hears
    exact ⟨before.1.trans kin, hears⟩
  rw [Site.ensure_eq] at done
  obtain ⟨scope, s₂, s₃, entered, worked, closed⟩ := Scope.exists_of_carry_around done
  -- The work is to lock, to bring the schema up to date and to claim it, in the scope.
  rw [Site.upkeep] at worked
  obtain ⟨_, t₁, locked, worked⟩ := exists_of_carry_bind worked
  obtain ⟨outcome, t₂, brought, worked⟩ := exists_of_carry_bind worked
  obtain ⟨_, t₃, claimed, worked⟩ := exists_of_carry_bind worked
  cases worked
  have first := step (spares_enter legible) ⟨.refl _, .refl _⟩ entered
  have second := step (spares_lock legible _) first locked
  obtain ⟨t₄, asked, read⟩ := exists_of_upToDate brought
  have third := step (spares_version legible) (step spares_tableExists second asked) read
  have fourth := step (spares_claim legible) third claimed
  exact (step (spares_keep legible scope) fourth closed).2

end UpToDate
end Schema
end Tenancy
