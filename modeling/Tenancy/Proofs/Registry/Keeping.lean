import Tenancy.Proofs.Files.Writing
import Tenancy.Proofs.Registry.Document

/-!
# A registry and its file

A registry in memory and the file it is kept in, over any course of registering, saving and loading during
which others may do to the files what they like. A step keeps the registry sound (`Store.Sound.step`), so
what holds of every sound registry (`integrity_of_sound`) holds at every point of a course (`integrity_run`).
-/

namespace Tenancy.Registry

/-- The registry that a file holds. Without a file there is no tenant. -/
def inFile (path : String) (files : Files) : Except Failure Registry :=
  match files.content? path with
  | .ok (some text) => ofText text
  | .ok none => .ok empty
  | .error fault => .error (.file fault)

/-- To load a registry reads the file, and changes none. -/
lemma carry_load {path : String} {files : Files} :
    Files.carry (Registry.load path) files = (inFile path files, files) := by
  unfold Registry.load inFile
  rw [Files.carry_bind, Files.carry_load]
  rcases files.content? path with fault | text
  · rfl
  · cases text with
    | none => rfl
    | some => rfl

/-- A registry that is in a file is sound. -/
lemma inFile_sound {path : String} {files : Files} {r : Registry} (h : inFile path files = .ok r) : r.Sound := by
  unfold inFile at h
  split at h
  · next text _ =>
    unfold ofText at h
    split at h
    · exact .of_ofPairs h
    · cases h
  · cases h
    exact sound_empty
  · cases h

/-- A file that was written is the registry's. -/
lemma Sound.inFile_write {r : Registry} (h : r.Sound) {path : String} {files later : Files}
    (written : files.write path r.text = .ok later) : inFile path later = .ok r := by
  rw [inFile, Files.content_write written]
  exact h.ofText_text

/-- Whether a prefix belongs to a name by the registry that a file holds. -/
def OnFile (path : String) (files : Files) (p : TablePrefix) (name : String) : Prop :=
  ∃ r, (Files.carry (Registry.load path) files).1 = .ok r ∧ r.tenant? p = some name

/-- A binding is on file if the registry in it has it. -/
lemma onFile_iff {path : String} {files : Files} {p : TablePrefix} {name : String} {r : Registry}
    (h : inFile path files = .ok r) : OnFile path files p name ↔ r.tenant? p = some name := by
  rw [OnFile, carry_load, h]
  simp

/-! ## Courses -/

/-- A registry, and the files in which it is kept. -/
structure Store where
  registry : Registry
  files : Files

/-- What is done to a registry or its file. -/
inductive Deed where
  | register (name : String)
  | save
  | load
  /-- Others overwrite files. -/
  | overwrite (files : Files)

namespace Store

/-- What comes of a deed, with the prefix if a name is registered. A registry that cannot be loaded leaves
the one in memory as it is. -/
def step (path : String) (s : Store) : Deed → Except Failure (Option TablePrefix) × Store
  | .register name =>
    match s.registry.register name with
    | .ok (p, registry) => (.ok (some p), { s with registry })
    | .error failure => (.error failure, s)
  | .save =>
    let (result, files) := Files.carry (s.registry.save path) s.files
    (result.map fun _ => none, { s with files })
  | .load =>
    match Files.carry (Registry.load path) s.files with
    | (.ok registry, files) => (.ok none, ⟨registry, files⟩)
    | (.error failure, files) => (.error failure, { s with files })
  | .overwrite files => (.ok none, { s with files })

/-- The store after a course of deeds. -/
def run (path : String) (s : Store) (deeds : List Deed) : Store :=
  deeds.foldl (fun s deed => (s.step path deed).2) s

/-- Whether the document in the file has these entries. -/
def Lists (path : String) (s : Store) (pairs : List (String × String)) : Prop :=
  ∃ text, s.files.content? path = .ok (some text) ∧ (Toml.parse? text).bind pairs? = some pairs

/-- What has to be so of a store for its registry to be relied on. -/
structure Integrity (path : String) (s : Store) : Prop where
  /-- Every prefix is that of its owner's name, -/
  own : ∀ p name, (p, name) ∈ s.registry.entries → TablePrefix.ofName name = .ok p
  /-- and no prefix is there twice. -/
  rising : Rising s.registry.entries
  /-- A name is registered exactly when it is valid and its prefix is free or its own. -/
  registers : ∀ name, (∃ p, (s.step path (.register name)).1 = .ok p) ↔
    ∃ p, TablePrefix.ofName name = .ok p ∧ ∀ owner, (p, owner) ∈ s.registry.entries → owner = name
  /-- At most the one entry is new. -/
  binds : ∀ name p, (s.step path (.register name)).1 = .ok p → ∃ q, p = some q ∧
    TablePrefix.ofName name = .ok q ∧ ∀ e, e ∈ (s.step path (.register name)).2.registry.entries ↔
      e = (q, name) ∨ e ∈ s.registry.entries
  /-- A failure, of whatever, leaves the registry as it is. -/
  refuses : ∀ deed failure, (s.step path deed).1 = .error failure → (s.step path deed).2 = s
  /-- A list of entries is loaded exactly when each has the prefix of its name and those with one prefix have
  one name. -/
  loads : ∀ pairs, s.Lists path pairs → ((s.step path .load).1 = .ok none ↔
    (∀ e ∈ pairs, ∃ p, TablePrefix.ofName e.1 = .ok p ∧ p.text = e.2) ∧
      ∀ e ∈ pairs, ∀ f ∈ pairs, e.2 = f.2 → e.1 = f.1)
  /-- Then it is what the entries say, whatever their order and however often they are there. -/
  spells : ∀ pairs, s.Lists path pairs → (s.step path .load).1 = .ok none → ∀ p name,
    (p, name) ∈ (s.step path .load).2.registry.entries ↔ (name, p.text) ∈ pairs
  /-- What was saved is loaded. -/
  returns : (s.step path .save).1 = .ok none →
    ((s.step path .save).2.step path .load) = (.ok none, (s.step path .save).2)

variable {s : Store} {path : String}

/-- A name is registered in memory. -/
lemma step_register {name : String} : s.step path (.register name) =
    match s.registry.register name with
    | .ok (p, registry) => (.ok (some p), { s with registry })
    | .error failure => (.error failure, s) := rfl

/-- The registry in memory is written into the file. -/
lemma step_save : s.step path .save =
    match s.files.write path s.registry.text with
    | .ok files => (.ok none, { s with files })
    | .error fault => (.error (.file fault), s) := by
  rw [step, Registry.save, Files.carry_save]
  cases s.files.write path s.registry.text with
  | ok => rfl
  | error => rfl

/-- The registry in the file is taken into memory. -/
lemma step_load : s.step path .load =
    match inFile path s.files with
    | .ok registry => (.ok none, { s with registry })
    | .error failure => (.error failure, s) := by
  rw [step, carry_load]
  cases inFile path s.files with
  | ok => rfl
  | error => rfl

/-- A deed keeps the registry sound. -/
lemma sound_step (h : s.registry.Sound) (deed : Deed) : (s.step path deed).2.registry.Sound := by
  cases deed with
  | register name =>
    rw [step_register]
    split
    · next done => exact h.register done
    · exact h
  | save =>
    rw [step_save]
    split
    · exact h
    · exact h
  | load =>
    rw [step_load]
    split
    · next found => exact inFile_sound found
    · exact h
  | overwrite files => exact h

/-- A course of deeds keeps the registry sound. -/
lemma sound_run (h : s.registry.Sound) (deeds : List Deed) : (s.run path deeds).registry.Sound := by
  induction deeds generalizing s with
  | nil => exact h
  | cons deed deeds ih => exact ih (sound_step h deed)

/-- A deed that fails changes nothing. -/
lemma step_fails {deed : Deed} {failure : Failure} (h : (s.step path deed).1 = .error failure) :
    (s.step path deed).2 = s := by
  cases deed with
  | register name =>
    rw [step_register] at h ⊢
    split at h
    · cases h
    · rfl
  | save =>
    rw [step_save] at h ⊢
    split at h
    · cases h
    · rfl
  | load =>
    rw [step_load] at h ⊢
    split at h
    · cases h
    · rfl
  | overwrite files => cases h

/-- A file that lists pairs has the registry that they make. -/
lemma inFile_lists {pairs : List (String × String)} (h : s.Lists path pairs) :
    inFile path s.files = ofPairs pairs := by
  obtain ⟨text, found, parsed⟩ := h
  rw [inFile, found]
  dsimp only
  rw [ofText, parsed]

/-- A registry is loaded if there is one in the file. -/
lemma load_succeeds_iff : (s.step path .load).1 = .ok none ↔ ∃ r, inFile path s.files = .ok r := by
  rw [step_load]
  cases inFile path s.files with
  | ok r => simp
  | error => simp

/-- A sound registry has integrity, whatever is in the files. -/
lemma integrity_of_sound (h : s.registry.Sound) : s.Integrity path where
  own p name mem := h.own (p, name) mem
  rising := h.rising
  registers name := by
    have step : (∃ p, (s.step path (.register name)).1 = .ok p) ↔ ∃ out, s.registry.register name = .ok out := by
      rw [step_register]
      cases s.registry.register name with
      | ok => simp
      | error => simp
    simp only [step, register_succeeds_iff, tenant?_eq_some h.rising]
  binds name p done := by
    rw [step_register] at done ⊢
    split at done
    · next q registry registered =>
      cases done
      refine ⟨q, rfl, (register_eq_ok.1 registered).1, fun e => ?_⟩
      have bound : registry.tenant? e.1 = some e.2 ↔
          q = e.1 ∧ name = e.2 ∨ s.registry.tenant? e.1 = some e.2 := h.tenant?_register registered
      rwa [tenant?_eq_some (h.register registered).rising, tenant?_eq_some h.rising, eq_comm (a := q),
        eq_comm (a := name), ← Prod.mk.injEq] at bound
    · cases done
  refuses deed failure := step_fails
  loads pairs lists := by
    rw [load_succeeds_iff, inFile_lists lists, ofPairs_succeeds_iff]
    rfl
  spells pairs lists done p name := by
    obtain ⟨r, found⟩ := load_succeeds_iff.1 done
    rw [step_load, found]
    rw [inFile_lists lists] at found
    rw [← tenant?_eq_some (Sound.of_ofPairs found).rising, tenant?_ofPairs found]
  returns done := by
    rw [step_save] at done ⊢
    split at done
    · next files written => rw [step_load, h.inFile_write written]
    · cases done

/-- At every point of every course that starts with an empty registry, its integrity is kept. -/
theorem integrity_run (path : String) (files : Files) (deeds : List Deed) :
    (run path ⟨empty, files⟩ deeds).Integrity path :=
  integrity_of_sound (sound_run sound_empty deeds)

end Store
end Tenancy.Registry
