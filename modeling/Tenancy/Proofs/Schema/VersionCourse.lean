import Tenancy.Proofs.Schema.Course
import Tenancy.Proofs.Schema.VersionStore

/-!
# A course of versions

In the store for the version, where no other session has written it, the version is read (`goes_version`) and
written (`goes_writeVersion`), and a schema of an older version is brought up to date
(`goes_bringUpToDate`). A call opens a transaction of its own for that. One that sets a version stops before
it is written (`arrives_writing`), and one that brings the schema up to date once it has the lock of the prefix
(`arrives_upkeep`): between these two points and the commit other sessions can come in.
-/

namespace Tenancy.Schema
open Connection Engine Interleaving

/-! ## Versions -/

/-- A schema without a prefix that keeps no documents. -/
abbrev bareSite : Site := { documents := false }

/-- What is kept for a version without documents. -/
def versionEntry (n : Int) : SettingEntry where
  document := none
  bytes := some (Text.utf8Bytes (Json.int n).text.toList)

/-- The version is read again. -/
lemma keptVersion_entry {n : Int} (positive : 0 ≤ n) (high : n ≤ Text.maxInt64) :
    keptVersion false (some (some (versionEntry n))) = .ok n := by
  have written : Written false (.int n) none (some (versionEntry n)) := ⟨_, rfl, rfl, rfl⟩
  exact versionIn_of_written positive high written

/-- The query for a setting is not the statement that writes one. -/
lemma settingQuery_ne_settingStatement : bareSite.settingQuery ≠ bareSite.settingStatement := by
  decide +kernel

/-- A version that is kept is decoded, and spells its number. -/
lemma decode_of_keptVersion {x : SettingEntry} {n : Int} (read : keptVersion false (some (some x)) = .ok n) :
    ∃ v, bareSite.decode versionKey (some x) = .ok v ∧
      (Site.versionOf v).mapError Failure.schema = .ok n := by
  change (bareSite.decode versionKey (some x) >>= fun v => (Site.versionOf v).mapError .schema) = .ok n at read
  cases decoded : bareSite.decode versionKey (some x) with
  | error failure =>
    rw [decoded] at read
    cases read
  | ok v =>
    rw [decoded] at read
    exact ⟨v, rfl, read⟩

/-! ## Reading and writing -/

/-- A transaction that has written a version. -/
def Stage.written {K : Type} (g : Stage (versionStore false) K) (n : Int) : Stage (versionStore false) K :=
  { g with work := { row := some (versionEntry n) } }

section Transaction
variable {K : Type} {m : Surroundings (versionStore false) K} {g : Stage (versionStore false) K} {n : Int}
  {x : SettingEntry}

/-- Where nobody has to be waited for, statements without parameters do nothing to the version. -/
lemma idles_version (clears : ∀ sql ps, m.clear sql ps) (work : VersionWork) : Idles m work := by
  refine fun sql => ⟨clears sql [], ?_, ?_, ?_⟩
  · rintro ⟨-, asks⟩
    cases asks
  · rintro value ⟨-, writes⟩
    cases writes
  · exact fun _ _ => ⟨work.made, rfl⟩

section Read
variable (clears : ∀ sql ps, m.clear sql ps) (kept : m.kept = some (some x)) (blank : g.work = {})
include clears kept blank

/-- A version that is kept is read. -/
lemma goes_version (read : keptVersion false (some (some x)) = .ok n) : Goes m g bareSite.version n g := by
  intro s here
  let reply : Reply := { columns := settingColumns, rows := [x.row false] }
  have runs : VersionRuns false m.kept s.work bareSite.settingQuery [.text versionKey] reply s.work := by
    refine ⟨fun _ => ⟨rfl, some x, ?_, rfl, rfl⟩, fun value writes => ?_, fun none => absurd ⟨rfl, rfl⟩ none⟩
    · rw [here.work, blank, kept]
      rfl
    · exact absurd writes.1 settingQuery_ne_settingStatement
  have asked : m.Arrives (Talk.execute bareSite.settingQuery [.text versionKey]) s
      (.done (.ok (s.cursor reply))) (s.received reply) := by
    refine .request (.execute here.opened (.inl rfl) ?_) fun inside => inside
    exact .work here.inside Site.reads_settingQuery Site.settingQuery_ne_lockStatement (clears _ _) runs
  have fetched : m.Arrives (Talk.fetchOne (s.cursor reply)) (s.received reply)
      (.done (.ok (some (x.row false)))) ((s.received reply).fetched (s.cursor reply)) := by
    refine .request ?_ fun inside => inside
    have answers : Answers m.hash m.free m.clear m.kept (s.received reply) (.fetchOne (s.cursor reply))
        (.ok ((s.received reply).rows (s.cursor reply)).head?) m.kept _ := .fetchOne _
    rw [Session.rows_received] at answers
    exact answers
  obtain ⟨v, said, spells⟩ := decode_of_keptVersion read
  have setting : m.Arrives (bareSite.setting? versionKey) s (.done (.ok v))
      ((s.received reply).fetched (s.cursor reply)) := by
    refine asked.bind (fetched.bind ?_)
    change m.Arrives (Procedure.done (bareSite.decode versionKey (some x))) _ _ _
    rw [said]
    exact .refl _ _
  refine ⟨(s.received reply).fetched (s.cursor reply), setting.bind ?_, here.opened, here.inside, here.work,
    here.locks, here.savepoints⟩
  change m.Arrives (Procedure.done ((Site.versionOf v).mapError .schema)) _ _ _
  rw [spells]
  exact .refl _ _

/-- A version is written in the place of the one that is kept. -/
lemma goes_writeVersion (bare : x.document = none) :
    Goes m g (bareSite.writeVersion n) () (g.written n) := by
  intro s here
  have runs : VersionRuns false m.kept s.work bareSite.settingStatement
      (settingParameters false versionKey (.int n)) {} { row := some (versionEntry n) } := by
    refine ⟨fun asks => absurd asks.1.symm settingQuery_ne_settingStatement, fun value writes => ?_, ?_⟩
    · have bytes : Text.utf8Bytes (Json.int n).text.toList = Text.utf8Bytes value.text.toList := by
        have same := writes.2
        simpa [settingParameters] using same
      refine ⟨some x, versionEntry n, ?_, ⟨_, rfl, congrArg some bytes, bare.symm⟩, ?_⟩
      · rw [here.work, blank, kept]
        rfl
      · rw [here.work, blank]
    · exact fun _ none => absurd ⟨rfl, rfl⟩ (none (.int n))
  let t : Interleaving.Session (versionStore false) K := { s with work := { row := some (versionEntry n) } }
  have written : m.Arrives
      (Talk.execute bareSite.settingStatement (settingParameters false versionKey (.int n))) s
      (.done (.ok (t.cursor {}))) (t.received {}) := by
    refine .request (.execute here.opened (.inl rfl) ?_) fun inside => inside
    exact .work here.inside Site.reads_settingStatement Site.settingStatement_ne_lockStatement (clears _ _)
      runs
  exact ⟨t.received {}, written.bind (.refl _ _), here.opened, here.inside, rfl, here.locks, here.savepoints⟩

/-- A schema of an older version is upgraded if the common lock is free. -/
lemma goes_bringUpToDate (read : keptVersion false (some (some x)) = .ok n) (older : n < currentVersion)
    (bare : x.document = none) (granted : m.free (m.hash Site.commonLock)) :
    Goes m g bareSite.bringUpToDate (.upgraded n)
      ((g.locked (m.hash Site.commonLock)).written currentVersion) := by
  have found : (versionStore false).finds m.kept g.work settingsTable true := fun _ => by
    rw [blank, kept]
    rfl
  have writes : Goes m (g.locked (m.hash Site.commonLock)) (bareSite.writeVersion currentVersion) ()
      ((g.locked (m.hash Site.commonLock)).written currentVersion) :=
    goes_writeVersion clears kept blank bare
  refine (Goes.tableExists found).bind ((goes_version clears kept blank read).bind ?_)
  rw [if_neg (not_lt.2 older.le), if_pos older]
  refine (Goes.lock granted).bind ((goes_upgrade (idles_version clears _)).bind ?_)
  exact writes.bind (.pure _)

end Read

/-! ## Transactions of their own -/

/-- What closes a scope, once it is known how the work ended. -/
def Scope.close {α : Type} (scope : Scope) : Except Failure α → Talk α
  | .ok a => do
    scope.keep
    return a
  | .error failure => do
    let _ ← scope.undo.attempt
    .ofExcept (.error failure)

/-- Work inside a scope is done between its opening and its closing. -/
lemma Scope.around_eq {α : Type} (work : Talk α) :
    Scope.around work = Scope.enter >>= fun scope => work.attempt >>= scope.close := by
  refine congrArg (Scope.enter >>= ·) (funext fun scope => ?_)
  refine congrArg (work.attempt >>= ·) (funext fun result => ?_)
  cases result with
  | ok a => rfl
  | error failure => rfl

/-- Work that can succeed in a transaction of its own comes to the commit. -/
lemma Goes.commits {α : Type} {p : Talk α} {a : α} {g' : Stage (versionStore false) K} (h : Goes m g p a g') :
    Asked m g (p.attempt >>= Scope.transaction.close) .commit g' :=
  .later h.attempt (Asked.request.first)

/-- What is left of the setting of a version once the former one was read. -/
def writing (version : Int) : Talk Unit := (bareSite.writeVersion version).attempt >>= Scope.transaction.close

/-- What is left of bringing the schema up to date once the lock of the prefix is held. -/
def upkeep : Talk Unit := do
  let work : Talk Outcome := do
    let outcome ← bareSite.bringUpToDate
    bareSite.claim
    return outcome
  let _ ← work.attempt >>= Scope.transaction.close

variable {s : Interleaving.Session (versionStore false) K} (opened : s.closed = false)
  (outside : s.inTransaction = false)
include opened outside

/-- Who sets a version reads the former one first, and goes on if the new one is not less. -/
lemma arrives_writing {k : Int} (clears : ∀ sql ps, m.clear sql ps) (kept : m.kept = some (some x))
    (read : keptVersion false (some (some x)) = .ok k) (le : k ≤ n) :
    ∃ t, m.Arrives (Scope.around (bareSite.advanceVersion n)) s (writing n) t ∧ At .first t := by
  obtain ⟨t, entered, there⟩ := arrives_enter m opened outside
  obtain ⟨u, reads, there'⟩ := goes_version clears kept rfl read t there
  have advances : m.Arrives (bareSite.advanceVersion n) t (bareSite.writeVersion n) u := by
    refine reads.bind ?_
    rw [if_neg (not_lt.2 le)]
    exact .refl _ _
  rw [Scope.around_eq]
  exact ⟨u, entered.bind advances.attempt.stops, there'⟩

/-- Who brings the schema up to date takes the lock of the prefix first. -/
lemma arrives_upkeep (granted : m.free (m.hash bareSite.prefixLock)) :
    ∃ t, m.Arrives (do let _ ← bareSite.ensure) s upkeep t ∧
      At (Stage.first.locked (m.hash bareSite.prefixLock)) t := by
  obtain ⟨t, entered, there⟩ := arrives_enter m opened outside
  obtain ⟨u, locks, there'⟩ := Goes.lock granted t there
  rw [Site.ensure, Scope.around_eq]
  exact ⟨u, (entered.bind (locks.bind (.refl _ u)).attempt.stops).stops, there'⟩

/-- If the lock is not free, the request for it is as far as the call comes. -/
lemma arrives_queue :
    ∃ next t, m.Arrives (do let _ ← bareSite.ensure) s (.ask (lockRequest bareSite.prefixLock) next) t ∧
      At .first t := by
  obtain ⟨t, entered, there⟩ := arrives_enter m opened outside
  rw [Site.ensure, Scope.around_eq]
  exact ⟨_, t, (entered.bind (.refl _ t)).stops, there⟩

end Transaction
end Tenancy.Schema
