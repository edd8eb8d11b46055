import Tenancy.Proofs.Connection.Ends
import Tenancy.Proofs.Server.Sessions

/-!
# The clients of a pool

A client of a pool is at rest or taken, and never both. `Stock` says so of a world, and that every open
transaction is accounted for: the client in it is at work. Taking a client (`Stock.take`), giving it back
(`Stock.giveBack`) and sending something with it (`Stock.served`) preserve this. A new pool starts like that
(`ready_create`).
-/

namespace Tenancy.Pool
open Engine
variable {e : Engine} {number : Nat} {taken taken' working working' : Client → Prop}
  {w : World (State e)} {k : Client}

/-- The clients of a pool at rest are none of those that are taken, and every client with an open
transaction is at work. -/
structure Stock (number : Nat) (taken working : Client → Prop) (w : World (State e)) : Prop where
  once : ∀ pool, w.pools[number]? = some pool → pool.idle.Nodup
  resting : ∀ pool, w.pools[number]? = some pool → ∀ k ∈ pool.idle, w.server.Knows k ∧ ¬ taken k
  known : ∀ k, taken k → w.server.Knows k
  owned : ∀ k, (w.server.sessions k).IsOpen → working k

/-- A pool is ready for use: its clients at rest are different ones and in no transactions. Whoever is in
one was logged in. -/
structure Ready (number : Nat) (w : World (State e)) : Prop where
  once : ∀ pool, w.pools[number]? = some pool → pool.idle.Nodup
  resting : ∀ pool, w.pools[number]? = some pool →
    ∀ k ∈ pool.idle, w.server.Knows k ∧ ¬ (w.server.sessions k).IsOpen
  known : ∀ k, (w.server.sessions k).IsOpen → w.server.Knows k

/-- Those who are in transactions then are none of the pool. -/
lemma Ready.stock (h : Ready number w) :
    Stock number (fun k => (w.server.sessions k).IsOpen) (fun k => (w.server.sessions k).IsOpen) w :=
  ⟨h.once, h.resting, h.known, fun _ => id⟩

namespace Stock

/-- A pool is ready for use where only others are in transactions. -/
lemma ready (h : Stock number taken taken w) : Ready number w where
  once := h.once
  resting pool found k mem := by
    obtain ⟨known, free⟩ := h.resting pool found k mem
    exact ⟨known, fun isOpen => free (h.owned k isOpen)⟩
  known k isOpen := h.known k (h.owned k isOpen)

/-- The same clients may be told in other words, and more of them be at work. -/
lemma congr (h : Stock number taken working w) (same : ∀ k, taken' k ↔ taken k)
    (more : ∀ k, working k → working' k) : Stock number taken' working' w where
  once := h.once
  resting pool found k mem := by
    obtain ⟨known, free⟩ := h.resting pool found k mem
    exact ⟨known, fun is => free ((same k).1 is)⟩
  known k is := h.known k ((same k).1 is)
  owned k isOpen := more k (h.owned k isOpen)

/-- The list of cursors and the files are no matter of the pool. -/
lemma world (h : Stock number taken working w) {w' : World (State e)} (pools : w'.pools = w.pools)
    (server : w'.server = w.server) : Stock number taken working w' := by
  refine ⟨?_, ?_, ?_, ?_⟩
  · rw [pools]
    exact h.once
  · rw [pools, server]
    exact h.resting
  · rw [server]
    exact h.known
  · rw [server]
    exact h.owned

/-- Where the server did something for one client, the others are as they were. -/
lemma served (h : Stock number taken working w) {server : State e}
    (alone : State.Alone k w.server server)
    (isOpen : (server.sessions k).IsOpen → working' k)
    (rest : ∀ d ≠ k, working d → working' d) : Stock number taken working' { w with server } := by
  have knows (d : Client) (known : w.server.Knows d) : server.Knows d := by
    rw [State.Knows, alone.attempts]
    exact known
  refine ⟨h.once, fun pool found d mem => ?_, fun d is => knows d (h.known d is), fun d hd => ?_⟩
  · obtain ⟨known, free⟩ := h.resting pool found d mem
    exact ⟨knows d known, free⟩
  · by_cases eq : d = k
    · subst eq
      exact isOpen hd
    · dsimp only at hd
      rw [alone.others d eq] at hd
      exact rest d eq (h.owned d hd)

/-- A pool that is changed has the clients at rest that the change leaves. -/
lemma update {f : Pool → Pool} {server : State e}
    (once : ∀ pool, w.pools[number]? = some pool → (f pool).idle.Nodup)
    (resting : ∀ pool, w.pools[number]? = some pool → ∀ k ∈ (f pool).idle,
      server.Knows k ∧ ¬ taken k)
    (known : ∀ k, taken k → server.Knows k)
    (owned : ∀ k, (server.sessions k).IsOpen → working k) :
    Stock number taken working { w with server, pools := w.pools.modify number f } := by
  have found (pool : Pool) (h : (w.pools.modify number f)[number]? = some pool) :
      ∃ old, w.pools[number]? = some old ∧ f old = pool := by
    simpa using h
  refine ⟨fun pool h => ?_, fun pool h => ?_, known, owned⟩
  · obtain ⟨old, there, rfl⟩ := found pool h
    exact once old there
  · obtain ⟨old, there, rfl⟩ := found pool h
    exact resting old there

/-- Whoever logs in was not known before, and is in no transaction. -/
lemma logIn (h : Stock number taken working w) (l : Login) :
    let server := (w.server.logIn l).2
    (∀ d, w.server.Knows d → server.Knows d) ∧
      (∀ d, (server.sessions d).IsOpen → working d) ∧
      ∀ d, (w.server.logIn l).1 = some d →
        ¬ w.server.Knows d ∧ server.Knows d ∧ ¬ (server.sessions d).IsOpen := by
  obtain ⟨attempts, cases⟩ := State.logIn_cases l w.server
  have knows (d : Client) (known : w.server.Knows d) : (w.server.logIn l).2.Knows d := by
    rw [State.Knows] at known ⊢
    omega
  rcases cases with ⟨none, sessions⟩ | ⟨some, sessions⟩
  · refine ⟨knows, fun d isOpen => ?_, fun d eq => ?_⟩
    · rw [sessions] at isOpen
      exact h.owned d isOpen
    · rw [none] at eq
      cases eq
  · refine ⟨knows, fun d isOpen => ?_, fun d eq => ?_⟩
    · rw [sessions] at isOpen
      split at isOpen
      · exact absurd isOpen Session.not_isOpen_new
      · exact h.owned d isOpen
    · rw [some] at eq
      cases eq
      refine ⟨by simp [State.Knows], by simp [State.Knows, attempts], ?_⟩
      rw [sessions, if_pos rfl]
      exact Session.not_isOpen_new

/-- A client that is taken was not taken before and is in no transaction, unless one at work was not
taken. -/
theorem take (h : Stock number taken working w) (works : ∀ d, working d → taken d) :
    Leaves
      (fun k w' => ¬ taken k ∧ ¬ (w'.server.sessions k).IsOpen ∧
        Stock number (fun d => taken d ∨ d = k) working w')
      (Stock number taken working) (Action.outcome (Pool.take number) w) := by
  rw [Pool.take, Action.outcome_bind, Pool.outcome_get?]
  dsimp only
  cases found : w.pools[number]? with
  | none => exact h
  | some p =>
    by_cases full : p.max ≤ p.lent
    · simp only [full, ↓reduceIte]
      exact h
    · simp only [full, ↓reduceIte, Action.outcome_bind, Action.outcome_get]
      cases rests : Pool.dropClosed p.idle w.server with
      | cons k idle =>
        have sublist : (k :: idle).Sublist p.idle := by
          rw [← rests]
          exact List.dropWhile_sublist _
        obtain ⟨fresh, -⟩ := List.nodup_cons.1 (sublist.nodup (h.once p found))
        obtain ⟨known, free⟩ := h.resting p found k (sublist.subset List.mem_cons_self)
        simp only [Action.outcome_bind, Pool.outcome_update]
        refine ⟨free, fun isOpen => free (works k (h.owned k isOpen)), update ?_ ?_ ?_ h.owned⟩
        · intro pool there
          exact (List.nodup_cons.1 (sublist.nodup (h.once p found))).2
        · intro pool there d mem
          obtain ⟨known, free⟩ :=
            h.resting p found d (sublist.subset (List.mem_cons_of_mem k mem))
          refine ⟨known, ?_⟩
          rintro (is | rfl)
          · exact free is
          · exact fresh mem
        · rintro d (is | rfl)
          · exact h.known d is
          · exact known
      | nil =>
        obtain ⟨knows, owned, new⟩ := h.logIn (p.address.login p.tls)
        simp only [Action.outcome_bind, Pool.outcome_update, Pool.outcome_openClient]
        rcases eq : Server.logIn (p.address.login p.tls) w.server with ⟨_ | k, server⟩
        · change (w.server.logIn (p.address.login p.tls)) = _ at eq
          rw [eq] at knows owned
          exact update (by simp) (by simp) (fun d is => knows d (h.known d is)) owned
        · change (w.server.logIn (p.address.login p.tls)) = _ at eq
          rw [eq] at knows owned new
          obtain ⟨unknown, known, quiet⟩ := new k rfl
          have emptied : Stock number (fun d => taken d ∨ d = k) working
              { w with server, pools := w.pools.modify number fun p => { p with idle := [] } } := by
            refine update (by simp) (by simp) ?_ owned
            rintro d (is | rfl)
            · exact knows d (h.known d is)
            · exact known
          refine ⟨fun is => unknown (h.known k is), quiet, ?_⟩
          exact update (fun pool => emptied.once pool) (fun pool => emptied.resting pool)
            emptied.known emptied.owned

/-- A client that is given back is at rest. -/
theorem giveBack (h : Stock number (fun d => taken d ∨ d = k) working w) (free : ¬ taken k) :
    Stock number taken working (Action.outcome (Pool.giveBack number k) w).2 := by
  rw [Pool.giveBack, Pool.outcome_update]
  refine update ?_ ?_ (fun d is => h.known d (.inl is)) h.owned
  · intro pool found
    have absent : k ∉ pool.idle := fun mem => (h.resting pool found k mem).2 (.inr rfl)
    have once := h.once pool found
    simp only [List.nodup_append, List.mem_singleton]
    refine ⟨once, by simp, fun d mem d' eq => ?_⟩
    rintro rfl
    exact absent (eq ▸ mem)
  · intro pool found d mem
    rcases List.mem_append.1 mem with mem | mem
    · obtain ⟨known, other⟩ := h.resting pool found d mem
      exact ⟨known, fun is => other (.inl is)⟩
    · rw [List.mem_singleton.1 mem]
      exact ⟨h.known k (.inr rfl), free⟩

/-- A client that is discarded is neither at rest nor taken, and in no transaction any more. -/
theorem discard (h : Stock number (fun d => taken d ∨ d = k) (fun d => working d ∨ d = k) w) :
    Stock number taken working (Action.outcome (Pool.discard number k) w).2 := by
  have left : Stock number (fun d => taken d ∨ d = k) working
      { w with server := w.server.setSession k { closed := true } } := by
    refine h.served ((State.Alone.refl _).setSession _) ?_ fun d other works => ?_
    · rw [State.sessions_setSession]
      exact fun isOpen => nomatch isOpen.1
    · exact works.resolve_right other
  have same : (Action.outcome (Pool.discard number k) w).2 =
      { w with
        server := w.server.setSession k { closed := true }
        pools := w.pools.modify number fun p => { p with lent := p.lent - 1 } } := rfl
  rw [same]
  refine update (fun pool => left.once pool) (fun pool found d mem => ?_)
    (fun d is => left.known d (.inl is)) left.owned
  obtain ⟨known, other⟩ := left.resting pool found d mem
  exact ⟨known, fun is => other (.inl is)⟩

/-- Clients that are taken one after the other are different ones. -/
lemma takeMany (h : Stock number taken working w) (works : ∀ d, working d → taken d) (count : Nat) :
    Leaves
      (fun ks w' => ks.Nodup ∧ (∀ k ∈ ks, ¬ taken k) ∧
        Stock number (fun d => taken d ∨ d ∈ ks) working w')
      (fun _ => True) (Action.outcome (Pool.takeMany number count) w) := by
  induction count generalizing taken w with
  | zero => exact ⟨List.nodup_nil, by simp, h.congr (by simp) fun _ => id⟩
  | succ count ih =>
    have took := h.take works
    rw [Pool.takeMany, Action.outcome_bind]
    rcases eq : Action.outcome (Pool.take number) w with ⟨failure | k, w₁⟩
    · trivial
    · rw [eq] at took
      obtain ⟨free, -, took⟩ := took
      have more := ih took fun d is => .inl (works d is)
      dsimp only
      rw [Action.outcome_bind]
      rcases eq : Action.outcome (Pool.takeMany number count) w₁ with ⟨failure | ks, w₂⟩
      · trivial
      · rw [eq] at more
        obtain ⟨once, others, stock⟩ := more
        refine ⟨List.nodup_cons.2 ⟨fun mem => others k mem (.inr rfl), once⟩, ?_, ?_⟩
        · simp only [List.forall_mem_cons]
          exact ⟨free, fun d mem is => others d mem (.inl is)⟩
        · refine stock.congr (fun d => ?_) fun _ => id
          rw [List.mem_cons, or_assoc]

/-- Clients that are given back one after the other are at rest. -/
lemma giveBackMany {ks : List Client} (h : Stock number (fun d => taken d ∨ d ∈ ks) working w)
    (once : ks.Nodup) (free : ∀ k ∈ ks, ¬ taken k) :
    Stock number taken working
      (Action.outcome (forIn ks PUnit.unit fun k _ => do
        Pool.giveBack number k
        return .yield PUnit.unit) w).2 := by
  induction ks generalizing w with
  | nil => exact h.congr (by simp) fun _ => id
  | cons k ks ih =>
    obtain ⟨absent, once⟩ := List.nodup_cons.1 once
    have last : Stock number (fun d => (taken d ∨ d ∈ ks) ∨ d = k) working w :=
      h.congr (fun d => by rw [List.mem_cons, or_assoc, or_comm (a := d ∈ ks)]) fun _ => id
    have back := last.giveBack (by
      rintro (is | mem)
      · exact free k List.mem_cons_self is
      · exact absent mem)
    have rest := ih back once fun d mem => free d (List.mem_cons_of_mem k mem)
    rw [List.forIn_cons, Action.outcome_bind]
    exact rest

end Stock

/-- To find out how a connection is protected changes nothing. -/
lemma outcome_protection (a : Address) (w : World (State e)) :
    (Action.outcome a.protection w).2 = w := by
  have known : Action.outcome (ExceptT.mk (pure a.tlsMode) : Action (State e) TlsMode) w =
      (a.tlsMode, w) := rfl
  rw [Address.protection, Action.outcome_bind, known]
  cases a.tlsMode with
  | error failure => rfl
  | ok tls =>
    dsimp only
    split
    · next path =>
      split
      · rw [Action.outcome_bind, Action.outcome_get]
        dsimp only
        split
        · split <;> rfl
        · rfl
      · rfl
    · rfl

/-- A new pool is ready for use, if whoever is in a transaction was logged in. -/
theorem ready_create (address : Address) (min max : Nat)
    (known : ∀ k, (w.server.sessions k).IsOpen → w.server.Knows k) :
    Leaves Ready (fun _ => True) (Action.outcome (create address min max) w) := by
  rw [create]
  by_cases bounds : max = 0 ∨ max < min
  · simp [bounds, Leaves]
  · simp only [bounds, ↓reduceIte, Action.outcome_bind, Action.outcome_get]
    have same := outcome_protection address w
    rcases eq : Action.outcome address.protection w with ⟨failure | tls, w'⟩
    · trivial
    · rw [eq] at same
      dsimp only at same
      subst same
      simp only [Action.outcome_modify]
      have empty : Stock w'.pools.length (fun k => (w'.server.sessions k).IsOpen)
          (fun k => (w'.server.sessions k).IsOpen)
          { w' with pools := w'.pools ++ [{ address, tls, max }] } := by
        refine ⟨fun pool found => ?_, fun pool found => ?_, known, fun _ => id⟩
        all_goals
          obtain rfl : { address, tls, max } = pool := by simpa using found
          simp
      have took := empty.takeMany (fun _ => id) min
      rcases eq : Action.outcome (takeMany w'.pools.length min) _ with ⟨failure | ks, w₁⟩
      · trivial
      · rw [eq] at took
        obtain ⟨once, free, took⟩ := took
        have back := took.giveBackMany once free
        dsimp only
        rcases eq : Action.outcome (forIn ks PUnit.unit _) w₁ with ⟨failure | u, w₂⟩
        · trivial
        · rw [eq] at back
          exact back.ready

end Tenancy.Pool
