import Tenancy.Proofs.Connection.Talk

/-!
# What a procedure asks for, and whether it is granted

`Asks` bounds the requests that a procedure can make, and `Granted` says that none of those fails which it
makes from a scene on. A procedure can fail all the same, by itself. One that does not is `Obliging`: where
everything is granted it gives a value (`Obliging.carry`), so that of a triple only the success is left
(`Talk.Triple.granted`). A triple with nothing refused is `Talk.Calm`, with a rule for each way to build a
procedure; for what a procedure merely asks for it is enough that single requests are granted
(`Talk.Calm.of_asks`).
-/

namespace Tenancy.Connection
variable {α β : Type}

/-- Whether every request that a procedure can make is among some. -/
def Asks (K : Request → Prop) : Talk α → Prop
  | .done _ => True
  | .ask r next => K r ∧ ∀ result, Asks K (next result)

namespace Asks
variable {K : Request → Prop} {p : Talk α} {f : α → Talk β}

/-- A value asks for nothing. -/
lemma pure (a : α) : Asks K (Pure.pure a : Talk α) := trivial

/-- Nor does any result that is known. -/
lemma ofExcept (result : Except Failure α) : Asks K (.ofExcept result : Talk α) := trivial

/-- A request asks for itself. -/
lemma request {r : Request} (h : K r) : Asks K (Procedure.request (I := talking) r) :=
  ⟨h, fun _ => trivial⟩

/-- Two procedures ask for what each of them does. -/
lemma bind (first : Asks K p) (rest : ∀ a, Asks K (f a)) : Asks K (p >>= f) := by
  change Asks K (p.bind f)
  induction p with
  | done result =>
    cases result with
    | ok a => exact rest a
    | error failure => trivial
  | ask r next ih => exact ⟨first.1, fun result => ih result (first.2 result)⟩

/-- An attempt asks for what is attempted. -/
lemma attempt (h : Asks K p) : Asks K p.attempt := by
  induction p with
  | done result => trivial
  | ask r next ih => exact ⟨h.1, fun result => ih result (h.2 result)⟩

/-- What is asked for may be told more roughly. -/
lemma imp {K' : Request → Prop} (h : Asks K p) (imp : ∀ r, K r → K' r) : Asks K' p := by
  induction p with
  | done result => trivial
  | ask r next ih => exact ⟨imp r h.1, fun result => ih result (h.2 result)⟩

/-- To run a statement asks for it. -/
lemma perform {sql : String} (h : K (.execute sql [])) : Asks K (Talk.perform sql) :=
  (request h).bind fun _ => pure ()

end Asks

variable {σ : Type} [Server σ]

/-- No request fails that a procedure makes from a scene on. -/
def Granted : Talk α → Scene σ → Prop
  | .done _, _ => True
  | .ask r next, s =>
    (outcome (answer r) s).1.isOk = true ∧
      Granted (next (outcome (answer r) s).1) (outcome (answer r) s).2

instance Granted.decidable : (p : Talk α) → (s : Scene σ) → Decidable (Granted p s)
  | .done _, _ => .isTrue trivial
  | .ask r next, s =>
    have := Granted.decidable (next (outcome (answer r) s).1) (outcome (answer r) s).2
    inferInstanceAs (Decidable (_ ∧ _))

/-- What follows a procedure is granted from where the procedure ended, unless it failed. -/
lemma granted_bind {p : Talk α} {f : α → Talk β} {s : Scene σ} :
    Granted (p >>= f) s ↔
      Granted p s ∧ ∀ a s', carry p s = (.ok a, s') → Granted (f a) s' := by
  change Granted (p.bind f) s ↔ _
  induction p generalizing s with
  | done result =>
    cases result with
    | ok a =>
      refine ⟨fun h => ⟨trivial, fun a' s' eq => ?_⟩, fun h => h.2 a s rfl⟩
      cases eq
      exact h
    | error failure =>
      refine ⟨fun _ => ⟨trivial, fun a s' eq => ?_⟩, fun _ => trivial⟩
      cases eq
  | ask r next ih => exact (and_congr_right fun _ => ih _).trans and_assoc.symm

/-- An attempt is granted what is attempted. -/
lemma granted_attempt {p : Talk α} {s : Scene σ} : Granted p.attempt s ↔ Granted p s := by
  induction p generalizing s with
  | done result => exact Iff.rfl
  | ask r next ih => exact and_congr_right fun _ => ih _

/-- A procedure that gives a value whenever its requests are answered. -/
def Obliging : Talk α → Prop
  | .done result => result.isOk = true
  | .ask _ next => ∀ a, Obliging (next (.ok a))

namespace Obliging
variable {p : Talk α} {f : α → Talk β}

/-- A value is given. -/
lemma pure (a : α) : Obliging (Pure.pure a : Talk α) := rfl

/-- So is a result that is one. -/
lemma ofExcept (a : α) : Obliging (.ofExcept (.ok a) : Talk α) := rfl

/-- A request that is answered gives its answer. -/
lemma request (r : Request) : Obliging (Procedure.request (I := talking) r) := fun _ => rfl

/-- Two procedures that give values do so one after the other. -/
lemma bind (first : Obliging p) (rest : ∀ a, Obliging (f a)) : Obliging (p >>= f) := by
  change Obliging (p.bind f)
  induction p with
  | done result =>
    cases result with
    | ok a => exact rest a
    | error failure => cases first
  | ask r next ih => exact fun a => ih (.ok a) (first a)

/-- An attempt gives the failure of the procedure as a value. -/
lemma attempt (p : Talk α) : Obliging p.attempt := by
  induction p with
  | done result => rfl
  | ask r next ih => exact fun a => ih (.ok a)

/-- A statement that is answered gives its cursor. -/
lemma execute (sql : String) (ps : List Parameter) : Obliging (Talk.execute sql ps) := request _

/-- So does one of which no result is used. -/
lemma perform (sql : String) : Obliging (Talk.perform sql) :=
  bind (execute sql []) fun _ => pure ()

/-- Where everything is granted, there is a value. -/
theorem carry (obliging : Obliging p) {s : Scene σ} (granted : Granted p s) :
    ∃ a s', Connection.carry p s = (.ok a, s') := by
  induction p generalizing s with
  | done result =>
    cases result with
    | ok a => exact ⟨a, s, rfl⟩
    | error failure => cases obliging
  | ask r next ih =>
    obtain ⟨answered, rest⟩ := granted
    -- The procedure goes on with an answer that is no failure.
    obtain ⟨a, eq⟩ : ∃ a, (outcome (answer r) s).1 = .ok a := by
      cases eq : (outcome (answer r) s).1 with
      | ok a => exact ⟨a, rfl⟩
      | error failure =>
        rw [eq] at answered
        cases answered
    exact ih _ (eq ▸ obliging a) rest

end Obliging

/-- Where everything is granted, what follows an obliging procedure is come to. -/
theorem Granted.step {p : Talk α} {f : α → Talk β} {s : Scene σ} (granted : Granted (p >>= f) s)
    (obliging : Obliging p) :
    ∃ a s₁, Connection.carry p s = (.ok a, s₁) ∧ Granted (f a) s₁ ∧
      Connection.carry (p >>= f) s = Connection.carry (f a) s₁ := by
  obtain ⟨first, rest⟩ := granted_bind.1 granted
  obtain ⟨a, s₁, eq⟩ := obliging.carry first
  refine ⟨a, s₁, eq, rest a s₁ eq, ?_⟩
  rw [carry_bind, eq]

/-- A procedure that ends with a failure where a request fails. -/
def Strict : Talk α → Prop
  | .done _ => True
  | .ask _ next =>
    (∀ failure, ∃ failure', next (.error failure) = .done (.error failure')) ∧
      ∀ a, Strict (next (.ok a))

namespace Strict
variable {p : Talk α} {f : α → Talk β}

/-- A procedure that is done has nothing more to fail. -/
lemma done (result : Except Failure α) : Strict (.done result : Talk α) := trivial

/-- A request fails where it does. -/
lemma request (r : Request) : Strict (Procedure.request (I := talking) r) :=
  ⟨fun failure => ⟨failure, rfl⟩, fun _ => trivial⟩

/-- Two strict procedures are strict one after the other. -/
lemma bind (first : Strict p) (rest : ∀ a, Strict (f a)) : Strict (p >>= f) := by
  change Strict (p.bind f)
  induction p with
  | done result =>
    cases result with
    | ok a => exact rest a
    | error failure => trivial
  | ask r next ih =>
    refine ⟨fun failure => ?_, fun a => ih (.ok a) (first.2 a)⟩
    obtain ⟨failure', eq⟩ := first.1 failure
    refine ⟨failure', ?_⟩
    change (next (.error failure)).bind f = _
    rw [eq]
    rfl

/-- To run a statement is strict. -/
lemma perform (sql : String) : Strict (Talk.perform sql) := (request _).bind fun _ => done _

/-- So if it succeeds, everything was granted. -/
theorem granted (strict : Strict p) {s s₁ : Scene σ} {a : α} (succeeds : carry p s = (.ok a, s₁)) :
    Granted p s := by
  induction p generalizing s with
  | done result => trivial
  | ask r next ih =>
    change carry (next (outcome (answer r) s).1) (outcome (answer r) s).2 = _ at succeeds
    change (outcome (answer r) s).1.isOk = true ∧
      Granted (next (outcome (answer r) s).1) (outcome (answer r) s).2
    generalize outcome (answer r) s = o at succeeds ⊢
    rcases o with ⟨failure | b, s'⟩
    · obtain ⟨failure', eq⟩ := strict.1 failure
      change carry (next (.error failure)) s' = _ at succeeds
      rw [eq] at succeeds
      cases succeeds
    · exact ⟨rfl, ih (.ok b) (strict.2 b) succeeds⟩

end Strict

/-- Where everything is granted to an obliging procedure, it ends as its triple says of a success. -/
theorem Talk.Triple.granted {c : Connection} {P R : σ → Prop} {Q : α → σ → Prop} {p : Talk α}
    (h : Talk.Triple c P p Q R) (obliging : Obliging p) {s : Scene σ} (granted : Granted p s)
    (like : c.Like s.connection) (hP : P s.world.server) :
    ∃ a s', carry p s = (.ok a, s') ∧ c.Like s'.connection ∧ Q a s'.world.server := by
  obtain ⟨a, s', eq⟩ := obliging.carry granted
  have left := h s like hP
  rw [eq] at left
  exact ⟨a, s', eq, left.1, left.2⟩

/-- A triple of a procedure to which nothing is refused. -/
structure Talk.Calm (c : Connection) (P : σ → Prop) (p : Talk α) (Q : α → σ → Prop) (R : σ → Prop) :
    Prop where
  triple : Talk.Triple c P p Q R
  granted : ∀ s : Scene σ, c.Like s.connection → P s.world.server → Granted p s

namespace Talk.Calm
variable {c : Connection} {P R : σ → Prop} {Q : α → σ → Prop} {S : β → σ → Prop} {p : Talk α}

/-- What is done in steps is granted if each step is from where the step before leaves it. -/
lemma bind {f : α → Talk β} (first : Calm c P p Q R) (rest : ∀ a, Calm c (Q a) (f a) S R) :
    Calm c P (p >>= f) S R where
  triple := first.triple.bind fun a => (rest a).triple
  granted s like hP := by
    refine granted_bind.2 ⟨first.granted s like hP, fun a s' eq => ?_⟩
    obtain ⟨like', post⟩ := first.triple s like hP
    rw [eq] at like' post
    exact (rest a).granted s' like' post

/-- A result that is known is calm. -/
lemma done {result : Except Failure α} (h : Talk.Triple c P (.done result) Q R) :
    Calm c P (.done result) Q R :=
  ⟨h, fun _ _ _ => trivial⟩

/-- So is a value. -/
lemma pure (a : α) (h : ∀ s, P s → Q a s) : Calm c P (Pure.pure a) Q R := done (.pure a h)

/-- More may be asked for before, and less be told afterwards. -/
lemma weaken {P' R' : σ → Prop} {Q' : α → σ → Prop} (h : Calm c P p Q R) (pre : ∀ s, P' s → P s)
    (ok : ∀ a s, Q a s → Q' a s) (error : ∀ s, R s → R' s) : Calm c P' p Q' R' :=
  ⟨h.triple.weaken pre ok error, fun s like hP => h.granted s like (pre _ hP)⟩

/-- An attempt is granted what it attempts. -/
lemma attempt {R' : σ → Prop} (h : Calm c P p Q R) :
    Calm c P p.attempt (fun result s => Leaves Q R (result, s)) R' :=
  ⟨h.triple.attempt, fun s like hP => granted_attempt.2 (h.granted s like hP)⟩

/-- Nothing was refused to a strict procedure that cannot fail. -/
lemma of_strict (strict : Strict p) (h : Talk.Triple c P p Q fun _ => False) : Calm c P p Q R where
  triple := h.weaken (fun _ h => h) (fun _ _ h => h) fun _ h => h.elim
  granted s like hP := by
    obtain ⟨a, s', eq, -⟩ := h.succeeds like hP
    exact strict.granted eq

/-- Where requests of some kinds are granted, so is whatever asks for no others. -/
theorem of_asks {K : Request → Prop} (asks : Asks K p)
    (grants : ∀ r, K r → Talk.Triple c P (Procedure.request (I := talking) r) (fun _ => P) fun _ => False) :
    Calm c P p (fun _ => P) P := by
  induction p with
  | done result => exact done (.done (fun _ _ _ h => h) fun _ _ _ h => h)
  | ask r next ih =>
    have one (s : Scene σ) (like : c.Like s.connection) (hP : P s.world.server) :
        ∃ a s', outcome (answer r) s = (.ok a, s') ∧ c.Like s'.connection ∧ P s'.world.server :=
      (grants r asks.1).succeeds like hP
    refine ⟨fun s like hP => ?_, fun s like hP => ?_⟩
    · obtain ⟨a, s', eq, like', hP'⟩ := one s like hP
      -- What a procedure does is its first request, and then what it does with the answer.
      have going : carry (.ask r next) s = carry (next (.ok a)) s' :=
        congrArg (fun o : Except Failure r.Answer × Scene σ => carry (next o.1) o.2) eq
      rw [going]
      exact (ih (.ok a) (asks.2 _)).triple s' like' hP'
    · obtain ⟨a, s', eq, like', hP'⟩ := one s like hP
      change (outcome (answer r) s).1.isOk = true ∧
        Granted (next (outcome (answer r) s).1) (outcome (answer r) s).2
      rw [eq]
      exact ⟨rfl, (ih (.ok a) (asks.2 _)).granted s' like' hP'⟩

end Talk.Calm
end Tenancy.Connection
