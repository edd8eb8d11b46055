import Tenancy.Broker
import Tenancy.Proofs.Registry.Bindings

/-!
# Assigning prefixes

What a broker does when a tenant asks for a prefix, one equation for each way it can go.
-/

namespace Tenancy

namespace Registry

/-- A name is never refused for the sake of a file. -/
lemma register_ne_file {r : Registry} {name : String} {failure : Failure}
    (h : r.register name = .error failure) (fault : FileFault) : failure ≠ .file fault := by
  rintro rfl
  unfold register at h
  rcases own : TablePrefix.ofName name with failure | p
  · rw [own] at h
    cases h
    unfold TablePrefix.ofName at own
    dsimp only at own
    split at own
    · cases own
    split at own
    · cases own
    split at own
    · cases own
    · cases own
  · rw [own] at h
    dsimp only [Bind.bind, Except.bind] at h
    split at h
    · split at h
      · cases h
      · cases h
    · cases h

end Registry

namespace Broker

variable {b : Broker} {name : String} {p : TablePrefix} {r : Registry}

/-- Where tenants have databases of their own nobody needs a prefix. -/
lemma assign_separate (own : b.topology = .separate) (tenant : Option String) :
    b.assign tenant = pure (b, .ok none) := by
  unfold assign
  rw [own]

/-- Without a name no prefix is assigned. -/
lemma assign_nobody (shared : b.topology = .monolithic) :
    b.assign none = pure (b, .error (.invalidTenant "" .nameRequired)) := by
  unfold assign
  rw [shared]

/-- A name that is refused gets none, and nothing is saved. -/
lemma assign_refused {failure : Failure} (shared : b.topology = .monolithic)
    (refused : b.registry.register name = .error failure) :
    b.assign (some name) = pure (b, .error failure) := by
  unfold assign
  rw [shared]
  dsimp only
  rw [refused]

/-- A name that is known gets its prefix, and nothing is written. -/
lemma assign_known (shared : b.topology = .monolithic) (registered : b.registry.register name = .ok (p, r))
    (same : r.size = b.registry.size) :
    b.assign (some name) = pure ({ b with registry := r }, .ok (some p)) := by
  cases b
  cases shared
  unfold assign
  dsimp only at registered same ⊢
  rw [registered]
  dsimp only
  rw [if_pos same]
  rfl

/-- A name that is new is in memory, whether or not the registry can be written. -/
lemma assign_new (shared : b.topology = .monolithic) (registered : b.registry.register name = .ok (p, r))
    (new : r.size ≠ b.registry.size) :
    b.assign (some name) = (do
      let saved ← Procedure.attempt (r.save b.registryPath)
      return ({ b with registry := r }, saved.map fun _ => some p)) := by
  cases b
  cases shared
  unfold assign
  dsimp only at registered new ⊢
  rw [registered]
  dsimp only
  rw [if_neg new]

end Broker

end Tenancy
