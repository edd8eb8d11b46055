import Tenancy.Proofs.Server.Watch

/-!
# Engines that take everything

An engine may refuse what it likes. `State.Complies` says that from a state on it does not, and then what
is sent outside of transactions by a client that is in none does what it says: a transaction begins
(`begin_fresh`), and ends (`Watch.Clean.commit_complies`).
-/

namespace Tenancy

namespace Engine
variable {e : Engine}

namespace State
variable {admits : Client → Received → Prop} {s₀ s : State e} {k : Client}

/-- From a state on the engine takes every statement. -/
def Complies (s : State e) : Prop := ∀ n ≥ s.log.length, ∀ sql, e.fate n sql = .accept

/-- A server that complies accepts what comes later too. -/
lemma Complies.accept (complies : s₀.Complies) (h : Since admits s₀ s) (sql : String) :
    e.fate s.log.length sql = .accept := by
  obtain ⟨new, log, -⟩ := h.log
  refine complies _ ?_ sql
  rw [log, List.length_append]
  omega

/-- A client is connected and in no transaction. -/
structure Fresh (k : Client) (s : State e) : Prop where
  connected : (s.sessions k).closed = false
  outside : (s.sessions k).transaction = none

section Complying
variable (complies : s₀.Complies) (since : Since admits s₀ s)
include complies since

/-- A statement that the engine takes outside of transactions. -/
lemma send_fresh (fresh : Fresh k s) (sql : String) :
    Server.send k sql s = match (s.note k (.simple sql)).obey k sql [] with
      | .ok (_, s') => (.ok (), s')
      | .error report => (.error (.refused report), (s.note k (.simple sql)).refuse k sql) := by
  rw [send_eq, receive_accept fresh.connected (complies.accept since sql)]
  rcases (s.note k (.simple sql)).obey k sql [] with report | ⟨reply, s'⟩
  · rfl
  · rfl

/-- Telling the engine where to look for tables changes nothing. -/
lemma setSchema_fresh (fresh : Fresh k s) {name : String}
    (admitted : admits k (.simple s!"SET search_path TO {name}")) :
    Leaves (fun _ s' => Since admits s₀ s' ∧ Fresh k s') (fun _ => False)
      (Server.send k s!"SET search_path TO {name}" s) := by
  have obeyed : (s.note k (.simple s!"SET search_path TO {name}")).obey k
      s!"SET search_path TO {name}" [] = .ok ({}, s.note k (.simple s!"SET search_path TO {name}")) := by
    unfold obey
    rw [sessions_note, fresh.outside, Reading.ofSql_setSchema]
  rw [send_fresh complies since fresh, obeyed]
  exact ⟨since.note admitted, fresh.connected, fresh.outside⟩

/-- A client that is fresh opens a transaction with the data that are kept. -/
lemma begin_fresh (fresh : Fresh k s) (admitted : admits k (.simple "BEGIN")) :
    Leaves (fun _ => (⟨s₀, k, admits⟩ : Watch e).Clean (· = { data := s₀.kept })) (fun _ => False)
      (Server.send k "BEGIN" s) := by
  have obeyed : (s.note k (.simple "BEGIN")).obey k "BEGIN" [] =
      .ok ({}, (s.note k (.simple "BEGIN")).setSession k { transaction := some { data := s.kept } }) := by
    unfold obey
    rw [sessions_note, fresh.outside]
    rfl
  rw [send_fresh complies since fresh, obeyed]
  refine ⟨(since.note admitted).setSession _, by simp, { data := s.kept }, by simp, ?_, rfl⟩
  rw [since.kept]

end Complying
end State

namespace Watch
variable {w : Watch e} {s : State e} {T : Transaction e → Prop}

/-- The end of a transaction is taken, whichever end it is. -/
lemma Clean.exists_end (h : w.Clean T s) (complies : w.start.Complies) {command : String}
    (ends : command ∈ ["COMMIT", "ROLLBACK"]) :
    ∃ s', Server.send w.client command s = (.ok (), s') := by
  obtain ⟨t, inside, -⟩ := h.inside
  have noted : ((s.note w.client (.simple command)).sessions w.client).transaction = some t := by
    rw [State.sessions_note, inside]
  rw [State.send_eq, State.receive_accept h.connected (complies.accept h.toSince command)]
  simp only [List.mem_cons, List.not_mem_nil, or_false] at ends
  rcases ends with rfl | rfl
  · rw [State.obey_commit noted]
    exact ⟨_, rfl⟩
  · unfold State.obey
    rw [noted]
    exact ⟨_, rfl⟩

/-- What was done in a clean transaction is committed. -/
lemma Clean.commit_complies (h : w.Clean T s) (complies : w.start.Complies)
    (admitted : w.admits w.client (.simple "COMMIT")) :
    Leaves (fun _ => w.Committed T) (fun _ => False) (Server.send w.client "COMMIT" s) := by
  have committed := h.commit admitted
  -- `Clean.commit` tells what is kept if the end does not fail; here it cannot.
  have ends : "COMMIT" ∈ ["COMMIT", "ROLLBACK"] := List.mem_cons_self
  obtain ⟨s', eq⟩ := h.exists_end complies ends
  rw [eq] at committed ⊢
  exact committed

end Watch
end Engine

end Tenancy
