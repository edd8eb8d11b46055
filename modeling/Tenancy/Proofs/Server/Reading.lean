import Mathlib.Tactic.ByContra
import Tenancy.Proofs.Server.Engine

/-!
# How statements are read

An engine tells by its text whether a statement is about a transaction. `mem_of_isEnd` names the texts
that end one, and `ofSql_eq` says that no statement is about a transaction unless it
starts like one that is.
-/

namespace Tenancy

namespace Understood

/-- Whether a statement ends a transaction. -/
def isEnd : Understood → Bool
  | commit | rollback => true
  | _ => false

/-- Whether a statement is about a transaction. -/
def isControl : Understood → Bool
  | begin | commit | rollback | savepoint _ | rollbackTo _ | release _ => true
  | _ => false

/-- A statement that is none of three texts is read by its beginning. -/
lemma ofSql_eq {sql : String} (h : sql ∉ ["BEGIN", "COMMIT", "ROLLBACK"]) :
    ofSql sql = (readings.findSome? fun reading => reading sql).getD other := by
  simp only [List.mem_cons, List.not_mem_nil, or_false, not_or] at h
  obtain ⟨begin, commit, rollback⟩ := h
  unfold ofSql
  split
  · exact absurd rfl begin
  · exact absurd rfl commit
  · exact absurd rfl rollback
  · rfl

/-- What is true of every reading by the beginning is true of such a statement. -/
lemma ofSql_of_readings {P : Understood → Prop} {sql : String}
    (h : sql ∉ ["BEGIN", "COMMIT", "ROLLBACK"]) (unread : P other)
    (read : ∀ reading ∈ readings, ∀ u, reading sql = some u → P u) : P (ofSql sql) := by
  rw [ofSql_eq h]
  cases found : readings.findSome? fun reading => reading sql with
  | none => exact unread
  | some u =>
    obtain ⟨reading, mem, eq⟩ := List.exists_of_findSome?_eq_some found
    exact read reading mem u eq

end Understood

namespace Engine.Reading

/-- A statement ends a transaction as it is understood. -/
lemma isEnd_ofSql (sql : String) :
    (ofSql sql).isEnd = (Understood.ofSql sql).isEnd := by
  unfold ofSql
  cases Understood.ofSql sql <;> dsimp only <;> first | rfl | split <;> rfl

/-- Only two statements do. -/
lemma mem_of_isEnd {sql : String} (h : (ofSql sql).isEnd) :
    sql ∈ ["COMMIT", "ROLLBACK"] := by
  by_contra none
  have other : sql ∉ ["BEGIN", "COMMIT", "ROLLBACK"] := by
    intro mem
    rcases List.mem_cons.1 mem with rfl | mem
    · cases h
    · exact none mem
  have readings : ∀ reading ∈ Understood.readings, ∀ u, reading sql = some u →
      u.isEnd = false := by
    simp only [Understood.readings, List.forall_mem_cons, Option.map_eq_some_iff]
    refine ⟨?_, ?_, ?_, ?_, ?_, ?_, ?_, ?_, by simp⟩
    all_goals
      rintro u ⟨x, -, rfl⟩
      rfl
  have stays : (Understood.ofSql sql).isEnd = false :=
    Understood.ofSql_of_readings (P := (·.isEnd = false)) other rfl readings
  rw [isEnd_ofSql, stays] at h
  cases h

/-- Only one opens a transaction. -/
lemma eq_of_begin {sql : String} (h : ofSql sql = begin) : sql = "BEGIN" := by
  have reads : Understood.ofSql sql = .begin := by
    unfold ofSql at h
    cases eq : Understood.ofSql sql <;> rw [eq] at h <;> first | rfl | cases h | (dsimp only at h; split at h <;> cases h)
  by_contra other
  by_cases mem : sql ∈ ["BEGIN", "COMMIT", "ROLLBACK"]
  · simp only [List.mem_cons, other, List.not_mem_nil, or_false, false_or] at mem
    rcases mem with rfl | rfl
    · cases reads
    · cases reads
  · refine Understood.ofSql_of_readings (P := (· ≠ .begin)) mem (by simp) ?_ reads
    simp only [Understood.readings, List.forall_mem_cons, Option.map_eq_some_iff]
    refine ⟨?_, ?_, ?_, ?_, ?_, ?_, ?_, ?_, by simp⟩
    all_goals
      rintro u ⟨x, -, rfl⟩ eq
      cases eq

/-- How statements about transactions start. -/
def controlHeads : List String :=
  ["BEGIN", "COMMIT", "ROLLBACK", "SAVEPOINT ", "RELEASE SAVEPOINT "]

/-- A statement that starts like none of those is about the session or about data. -/
lemma ofSql_eq {sql : String} (h : ∀ w ∈ controlHeads, ¬ w.toList <+: sql.toList) :
    ofSql sql = if "SET ".toList.isPrefixOf sql.toList then session else work := by
  have starts {head r : String} (found : Understood.after? head sql = some r) :
      head.toList <+: sql.toList := by
    unfold Understood.after? at found
    split at found
    · next eq => exact List.isPrefixOf_iff_prefix.1 eq
    · cases found
  have other : sql ∉ ["BEGIN", "COMMIT", "ROLLBACK"] := by
    intro mem
    have among : sql ∈ controlHeads := by
      simp only [controlHeads, List.mem_cons, List.not_mem_nil, or_false] at mem ⊢
      rcases mem with eq | eq | eq <;> simp [eq]
    exact h sql among (List.prefix_refl _)
  have readings : ∀ reading ∈ Understood.readings, ∀ u, reading sql = some u →
      u.isControl = false := by
    simp only [Understood.readings, List.forall_mem_cons, Option.map_eq_some_iff]
    refine ⟨?_, ?_, ?_, ?_, ?_, ?_, ?_, ?_, by simp⟩
    · rintro u ⟨name, found, -⟩
      exact absurd (starts found) (h _ (by decide))
    · rintro u ⟨name, found, -⟩
      have rollback : "ROLLBACK".toList <+: sql.toList := by
        refine List.IsPrefix.trans ?_ (starts found)
        decide
      exact absurd rollback (h _ (by decide))
    · rintro u ⟨name, found, -⟩
      exact absurd (starts found) (h _ (by decide))
    all_goals
      rintro u ⟨x, -, rfl⟩
      rfl
  have none : (Understood.ofSql sql).isControl = false :=
    Understood.ofSql_of_readings (P := (·.isControl = false)) other rfl readings
  unfold ofSql
  cases eq : Understood.ofSql sql <;> rw [eq] at none <;> first | rfl | cases none

/-- A statement that starts like none of those, nor like one about the session, is about data. -/
lemma ofSql_eq_work {sql : String}
    (h : ∀ w ∈ "SET " :: controlHeads, ¬ w.toList <+: sql.toList) : ofSql sql = work := by
  obtain ⟨session, control⟩ := List.forall_mem_cons.1 h
  rw [ofSql_eq control, if_neg]
  rwa [List.isPrefixOf_iff_prefix]

/-- Whether two texts differ somewhere before either ends. -/
def apart : List Char → List Char → Bool
  | c :: cs, d :: ds => c ≠ d || apart cs ds
  | _, _ => false

/-- A text that differs from another is not the start of what goes on from that. -/
lemma not_prefix_of_apart {cs ds : List Char} (h : apart cs ds) (rest : List Char) :
    ¬ cs <+: ds ++ rest := by
  induction cs generalizing ds with
  | nil => cases h
  | cons c cs ih =>
    cases ds with
    | nil => cases h
    | cons d ds =>
      rw [List.cons_append, List.cons_prefix_cons]
      rintro ⟨rfl, start⟩
      rw [apart] at h
      exact ih (by simpa using h) start

/-- Where to look for tables is something about the session. -/
lemma ofSql_setSchema (name : String) : ofSql s!"SET search_path TO {name}" = session := by
  have text : s!"SET search_path TO {name}".toList =
      "SET search_path TO ".toList ++ name.toList := String.toList_append
  rw [ofSql_eq, if_pos]
  · rw [text, List.isPrefixOf_iff_prefix]
    refine List.IsPrefix.trans ?_ (List.prefix_append _ _)
    decide
  · intro w mem
    rw [text]
    refine not_prefix_of_apart ?_ _
    revert w
    decide

end Engine.Reading

end Tenancy
