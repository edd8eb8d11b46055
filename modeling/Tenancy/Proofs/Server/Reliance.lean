import Tenancy.Proofs.Connection.Granted
import Tenancy.Proofs.Server.Interleaving

/-!
# Calls among those of other sessions

What a call does can be shown without knowing the calls of other sessions, as long as it is known what they
may do to the data meanwhile. A `Regime` says that, and what the call itself may ask for; `Heeds` says that
a call keeps to it, whatever is answered. `Regime.Triple` is the form in which that is put together, with a
rule for each way to build a procedure; of what a procedure merely asks for (`Asks`) it is enough to know
what single requests come to (`Regime.Triple.of_asks`).
-/

namespace Tenancy

namespace Interleaving
open Connection

/-- What a call may rely on, and what it may ask for. -/
structure Regime (S : Store) (K : Type) where
  /-- What others may do to the data that are kept, as long as the session stays what it is. -/
  rely : Session S K → S.Kept → S.Kept → Prop
  refl : ∀ s kept, rely s kept kept
  trans : ∀ {s kept kept' kept''}, rely s kept kept' → rely s kept' kept'' → rely s kept kept''
  allows : S.Kept → Session S K → Request → Prop

variable {S : Store} {K : Type} {α β : Type}

/-- A procedure asks only for what it may, and ends as it is to end. -/
def Heeds (hash : String → K) (R : Regime S K)
    (ends : Except Failure α → S.Kept → Session S K → Prop) :
    Talk α → S.Kept → Session S K → Prop
  | .done result, kept, s => ∀ kept', R.rely s kept kept' → ends result kept' s
  | .ask r next, kept, s => ∀ kept₀, R.rely s kept kept₀ → R.allows kept₀ s r ∧
    ∀ free clear result kept' s', Answers hash free clear kept₀ s r result kept' s' →
      Heeds hash R ends (next result) kept' s'

section Heeds
variable {hash : String → K} {R : Regime S K} {ends : Except Failure α → S.Kept → Session S K → Prop}
  {p : Talk α} {kept kept' : S.Kept} {s s' : Session S K}

/-- Others do no harm. -/
lemma Heeds.meanwhile (h : Heeds hash R ends p kept s) (rely : R.rely s kept kept') :
    Heeds hash R ends p kept' s := by
  cases p with
  | done result => exact fun kept'' later => h kept'' (R.trans rely later)
  | ask r next => exact fun kept₀ later => h kept₀ (R.trans rely later)

/-- What is asked for may be asked for. -/
lemma Heeds.allows {r : Request} {next : Except Failure r.Answer → Talk α}
    (h : Heeds hash R ends (.ask r next) kept s) : R.allows kept s r := (h kept (R.refl s kept)).1

/-- The procedure goes on as it is to do. -/
lemma Heeds.answer {r : Request} {next : Except Failure r.Answer → Talk α}
    (h : Heeds hash R ends (.ask r next) kept s) {free : K → Prop}
    {clear : String → List Parameter → Prop} {result : Except Failure r.Answer}
    (answers : Answers hash free clear kept s r result kept' s') :
    Heeds hash R ends (next result) kept' s' := (h kept (R.refl s kept)).2 _ _ _ _ _ answers

/-- Where a procedure is done its end is as it should be. -/
lemma Heeds.ended {result : Except Failure α} (h : Heeds hash R ends (.done result) kept s) :
    ends result kept s := h kept (R.refl s kept)

/-- Less may be told of the ends. -/
lemma Heeds.imp {ends' : Except Failure α → S.Kept → Session S K → Prop}
    (h : Heeds hash R ends p kept s) (imp : ∀ result kept s, ends result kept s → ends' result kept s) :
    Heeds hash R ends' p kept s := by
  induction p generalizing kept s with
  | done result => exact fun kept' rely => imp _ _ _ (h kept' rely)
  | ask r next ih =>
    refine fun kept₀ rely => ⟨(h kept₀ rely).1, fun free clear result kept' s' answers => ?_⟩
    exact ih result ((h kept₀ rely).2 free clear result kept' s' answers)

/-- What follows a procedure starts where the procedure ended, unless it failed. -/
lemma Heeds.bind {f : α → Talk β} {ends : Except Failure β → S.Kept → Session S K → Prop}
    (h : Heeds hash R (fun result kept s =>
      match result with
      | .ok a => Heeds hash R ends (f a) kept s
      | .error failure => ends (.error failure) kept s) p kept s) :
    Heeds hash R ends (p >>= f) kept s := by
  change Heeds hash R ends (p.bind f) kept s
  induction p generalizing kept s with
  | done result =>
    cases result with
    | ok a => exact h kept (R.refl s kept)
    | error failure => exact h
  | ask r next ih =>
    refine fun kept₀ rely => ⟨(h kept₀ rely).1, fun free clear result kept' s' answers => ?_⟩
    exact ih result ((h kept₀ rely).2 free clear result kept' s' answers)

/-- An attempt keeps to a regime as what is attempted does. -/
lemma Heeds.attempt {ends : Except Failure (Except Failure α) → S.Kept → Session S K → Prop}
    (h : Heeds hash R (fun result => ends (.ok result)) p kept s) :
    Heeds hash R ends p.attempt kept s := by
  induction p generalizing kept s with
  | done result => exact h
  | ask r next ih =>
    refine fun kept₀ rely => ⟨(h kept₀ rely).1, fun free clear result kept' s' answers => ?_⟩
    exact ih result ((h kept₀ rely).2 free clear result kept' s' answers)

end Heeds

namespace Regime

/-- Whether others cannot make something untrue. -/
def Stable (R : Regime S K) (P : S.Kept → Session S K → Prop) : Prop :=
  ∀ {kept kept' s}, R.rely s kept kept' → P kept s → P kept' s

/-- Others do not touch a session. -/
lemma stable_session (R : Regime S K) (P : Session S K → Prop) : R.Stable fun _ s => P s := fun _ h => h

/-- From where `P` holds a procedure keeps to a regime, and it leaves `Q` where it succeeds and `E` where it
fails. -/
def Triple (hash : String → K) (R : Regime S K) (P : S.Kept → Session S K → Prop) (p : Talk α)
    (Q : α → S.Kept → Session S K → Prop) (E : S.Kept → Session S K → Prop) : Prop :=
  ∀ kept s, P kept s → Heeds hash R (fun result kept s =>
    match result with
    | .ok a => Q a kept s
    | .error _ => E kept s) p kept s

namespace Triple
variable {hash : String → K} {R : Regime S K} {P : S.Kept → Session S K → Prop} {p : Talk α}
  {Q : α → S.Kept → Session S K → Prop} {E : S.Kept → Session S K → Prop}

/-- A result that is known leaves what is so of it. -/
lemma done {result : Except Failure α} (stable : R.Stable P)
    (ends : ∀ kept s, P kept s → match result with
      | .ok a => Q a kept s
      | .error _ => E kept s) : Triple hash R P (.done result) Q E :=
  fun _ _ h _ rely => ends _ _ (stable rely h)

/-- So does a value. -/
lemma pure (stable : R.Stable P) {a : α} (h : ∀ kept s, P kept s → Q a kept s) :
    Triple hash R P (Pure.pure a : Talk α) Q E := done stable h

/-- What holds after one procedure is what the next one starts from. -/
lemma bind {f : α → Talk β} {M : α → S.Kept → Session S K → Prop}
    {Q : β → S.Kept → Session S K → Prop} (first : Triple hash R P p M E)
    (rest : ∀ a, Triple hash R (M a) (f a) Q E) : Triple hash R P (p >>= f) Q E := by
  intro kept s h
  refine Heeds.bind ((first kept s h).imp fun result kept s ended => ?_)
  cases result with
  | ok a => exact rest a kept s ended
  | error failure => exact ended

/-- Both ends of a procedure are ends of the attempt. -/
lemma attempt {F : S.Kept → Session S K → Prop} (h : Triple hash R P p Q E) :
    Triple hash R P p.attempt (fun result kept s => match result with
      | .ok a => Q a kept s
      | .error _ => E kept s) F :=
  fun kept s start => Heeds.attempt (h kept s start)

/-- More may be asked for before, and less be told afterwards. -/
lemma weaken {P' : S.Kept → Session S K → Prop} {Q' : α → S.Kept → Session S K → Prop}
    {E' : S.Kept → Session S K → Prop} (h : Triple hash R P p Q E)
    (before : ∀ kept s, P' kept s → P kept s) (after : ∀ a kept s, Q a kept s → Q' a kept s)
    (failed : ∀ kept s, E kept s → E' kept s) : Triple hash R P' p Q' E' := by
  intro kept s start
  refine (h kept s (before kept s start)).imp fun result kept s ended => ?_
  cases result with
  | ok a => exact after a kept s ended
  | error failure => exact failed kept s ended

/-- More may be asked for before. -/
lemma strengthen {P' : S.Kept → Session S K → Prop} (h : Triple hash R P p Q E)
    (before : ∀ kept s, P' kept s → P kept s) : Triple hash R P' p Q E :=
  fun kept s start => h kept s (before kept s start)

/-- What is shown of a request: that it may be made, and what comes of it. -/
lemma request {r : Request} {Q : r.Answer → S.Kept → Session S K → Prop} (stable : R.Stable P)
    (stableQ : ∀ a, R.Stable (Q a)) (stableE : R.Stable E)
    (allows : ∀ kept s, P kept s → R.allows kept s r)
    (answers : ∀ {kept s free clear result kept' s'}, P kept s →
      Answers hash free clear kept s r result kept' s' → match result with
        | .ok a => Q a kept' s'
        | .error _ => E kept' s') :
    Triple hash R P (Procedure.request (I := talking) r) Q E := by
  intro kept s start kept₀ rely
  have here := stable rely start
  refine ⟨allows kept₀ s here, fun free clear result kept' s' answered kept'' later => ?_⟩
  have ended := answers here answered
  cases result with
  | ok a => exact stableQ a later ended
  | error failure => exact stableE later ended

/-- Of a request that may fail anywhere, only what comes of its success is to be shown. -/
lemma request_ok {r : Request} {Q : r.Answer → S.Kept → Session S K → Prop} (stable : R.Stable P)
    (stableQ : ∀ a, R.Stable (Q a)) (allows : ∀ kept s, P kept s → R.allows kept s r)
    (answers : ∀ {kept s free clear a kept' s'}, P kept s →
      Answers hash free clear kept s r (.ok a) kept' s' → Q a kept' s') :
    Triple hash R P (Procedure.request (I := talking) r) Q fun _ _ => True := by
  refine request stable stableQ (fun _ _ => trivial) allows
    fun {kept s free clear result kept' s'} h answered => ?_
  cases result with
  | ok a => exact answers h answered
  | error failure => trivial

/-- What the answer to each request leaves as it is lasts through a procedure. -/
lemma of_asks {K' : Request → Prop} (asks : Asks K' p) (stable : R.Stable P)
    (allows : ∀ kept s r, P kept s → K' r → R.allows kept s r)
    (answers : ∀ {kept s r free clear result kept' s'}, P kept s → K' r →
      Answers hash free clear kept s r result kept' s' → P kept' s') :
    Triple hash R P p (fun _ => P) P := by
  induction p with
  | done result =>
    refine done stable fun kept s h => ?_
    cases result with
    | ok a => exact h
    | error failure => exact h
  | ask r next ih =>
    intro kept s start kept₀ rely
    have here := stable rely start
    refine ⟨allows kept₀ s r here asks.1, fun free clear result kept' s' answered => ?_⟩
    exact ih result (asks.2 result) kept' s' (answers here asks.1 answered)

end Triple
end Regime
end Interleaving
end Tenancy
