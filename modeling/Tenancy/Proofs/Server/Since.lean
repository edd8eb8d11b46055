import Tenancy.Proofs.Connection.Outcome
import Tenancy.Proofs.Server.Reading

/-!
# What happened since a state

An engine keeps nothing of what is done in a transaction that is not committed. `State.Since` says that
nothing was kept since a state, and what was received since then; `State.Since.receive_leaves` is the step
for any statement, and what is obeyed is all that it leaves to be looked at.
-/

namespace Tenancy.Engine.State
variable {e : Engine} {admits : Client → Received → Prop} {s₀ s₁ s : State e} {k : Client}

/-- Nothing was kept since the state `s₀`. -/
structure Same (s₀ s : State e) : Prop where
  kept : s.kept = s₀.kept
  commits : s.commits = s₀.commits

/-- Nothing was kept since the state `s₀`, and nothing was received but what is admitted. -/
structure Since (admits : Client → Received → Prop) (s₀ s : State e) : Prop
    extends Same s₀ s where
  log : ∃ new, s.log = new ++ s₀.log ∧ ∀ x ∈ new, admits x.1 x.2

namespace Since

/-- Nothing has happened since. -/
lemma refl (s : State e) : Since admits s s := ⟨⟨rfl, rfl⟩, [], rfl, by simp⟩

/-- One thing has happened after the other. -/
lemma trans (h : Since admits s₀ s₁) (g : Since admits s₁ s) : Since admits s₀ s := by
  obtain ⟨new, eq, all⟩ := h.log
  obtain ⟨more, eq', all'⟩ := g.log
  refine ⟨⟨g.kept.trans h.kept, g.commits.trans h.commits⟩, more ++ new, ?_, ?_⟩
  · rw [eq', eq, List.append_assoc]
  · intro x mem
    rcases List.mem_append.1 mem with mem | mem
    · exact all' x mem
    · exact all x mem

/-- What a session does by itself keeps nothing. -/
lemma setSession (h : Since admits s₀ s) (session : Session e) :
    Since admits s₀ (s.setSession k session) := ⟨⟨h.kept, h.commits⟩, h.log⟩

/-- What is admitted may be noted. -/
lemma note (h : Since admits s₀ s) {r : Received} (admitted : admits k r) :
    Since admits s₀ (s.note k r) :=
  h.trans ⟨⟨rfl, rfl⟩, [(k, r)], rfl, by simpa using admitted⟩

/-- A login keeps nothing. -/
lemma logIn (h : Since admits s₀ s) (l : Login) : Since admits s₀ (s.logIn l).2 := by
  unfold State.logIn
  split
  · exact ⟨⟨h.kept, h.commits⟩, h.log⟩
  · exact ⟨⟨h.kept, h.commits⟩, h.log⟩

/-- Nor does a refusal. -/
lemma refuse (h : Since admits s₀ s) (sql : String) : Since admits s₀ (s.refuse k sql) := by
  unfold State.refuse
  split
  · exact h.setSession _
  · exact h.setSession _
  · exact h.setSession _
  · exact h

/-- A statement keeps nothing unless it is obeyed. -/
lemma receive_leaves (h : Since admits s₀ s) {r : Received} (admitted : admits k r)
    {misfit : Option Mismatch} {sql : String} {ps : List Parameter} {Q : Reply → State e → Prop}
    (obeyed : ∀ reply s', (s.note k r).obey k sql ps = .ok (reply, s') → Q reply s') :
    Leaves Q (Since admits s₀) (s.receive k r misfit sql ps) := by
  rcases receive_cases s k r misfit sql ps with ⟨-, eq⟩ | ⟨-, cases⟩
  · rw [eq]
    exact h
  · rcases cases with ⟨eq, -⟩ | ⟨report, eq⟩ | ⟨m, eq⟩ | ⟨reply, s', obeys, eq⟩
    · rw [eq]
      exact (h.note admitted).setSession _
    · rw [eq]
      exact (h.note admitted).refuse sql
    · rw [eq]
      exact h.note admitted
    · rw [eq]
      exact obeyed reply s' obeys

/-- A statement that is sent without parameters keeps nothing unless it is obeyed. -/
lemma send_leaves (h : Since admits s₀ s) {sql : String} (admitted : admits k (.simple sql))
    {Q : State e → Prop}
    (obeyed : ∀ reply s', (s.note k (.simple sql)).obey k sql [] = .ok (reply, s') → Q s') :
    Leaves (fun _ => Q) (Since admits s₀) (Server.send k sql s) := by
  have left : Leaves (fun _ => Q) (Since admits s₀) (s.receive k (.simple sql) none sql []) :=
    h.receive_leaves admitted obeyed
  rw [send_eq]
  rcases received : s.receive k (.simple sql) none sql [] with ⟨fault | reply, s'⟩
  · rw [received] at left
    exact left
  · rw [received] at left
    exact left

/-- Telling the engine where to look for tables keeps nothing. -/
lemma setSchema (h : Since admits s₀ s) {name : String}
    (admitted : admits k (.simple s!"SET search_path TO {name}")) :
    Since admits s₀ (Server.send k s!"SET search_path TO {name}" s).2 := by
  refine Leaves.always (h.send_leaves admitted fun reply s' obeys => ?_)
  cases inside : (s.sessions k).transaction with
  | none =>
    unfold obey at obeys
    rw [sessions_note, inside, Reading.ofSql_setSchema] at obeys
    cases obeys
    exact h.note admitted
  | some t =>
    obtain ⟨t', -, rfl⟩ := exists_of_obey (by rw [sessions_note, inside])
      (by rw [Reading.ofSql_setSchema]; rfl) obeys
    exact (h.note admitted).setSession _

end Since

/-- Outside of a transaction a refusal changes nothing. -/
lemma refuse_outside (outside : (s.sessions k).transaction = none) (sql : String) :
    s.refuse k sql = s := by
  unfold State.refuse
  rw [outside]

/-- Telling the engine where to look for tables opens no transaction. One that is open stays as it is, or
is spoiled. -/
lemma exists_of_setSchema {name : String} {t' : Transaction e}
    (inside : ((Server.send k s!"SET search_path TO {name}" s).2.sessions k).transaction = some t') :
    ∃ t, (s.sessions k).transaction = some t ∧ (t' = t ∨ t' = { t with spoiled := true }) := by
  let r : Received := .simple s!"SET search_path TO {name}"
  have noted : (s.note k r).sessions k = s.sessions k := rfl
  have reading := Reading.ofSql_setSchema name
  rw [send_eq] at inside
  dsimp only at inside
  rcases receive_cases s k r none s!"SET search_path TO {name}" [] with ⟨-, eq⟩ | ⟨-, cases⟩
  · rw [eq] at inside
    exact ⟨t', inside, .inl rfl⟩
  · rcases cases with ⟨eq, -⟩ | ⟨report, eq⟩ | ⟨m, eq⟩ | ⟨reply, s', obeys, eq⟩
    · rw [eq, sessions_setSession] at inside
      cases inside
    · rw [eq] at inside
      cases found : (s.sessions k).transaction with
      | none =>
        rw [refuse_outside (by rw [noted, found])] at inside
        dsimp only at inside
        rw [noted, found] at inside
        cases inside
      | some t =>
        rw [refuse_inside (by rw [noted, found]) (by rw [reading]; rfl), sessions_setSession] at inside
        cases inside
        exact ⟨t, rfl, .inr rfl⟩
    · rw [eq] at inside
      exact ⟨t', inside, .inl rfl⟩
    · rw [eq] at inside
      cases found : (s.sessions k).transaction with
      | none =>
        unfold obey at obeys
        rw [noted, found, reading] at obeys
        cases obeys
        rw [noted, found] at inside
        cases inside
      | some t =>
        obtain ⟨t₁, done, rfl⟩ := exists_of_obey (by rw [noted, found]) (by rw [reading]; rfl) obeys
        rw [sessions_setSession] at inside
        cases inside
        exact ⟨t, rfl, .inl (Transaction.eq_of_obey (.inr reading) done)⟩

end Tenancy.Engine.State
