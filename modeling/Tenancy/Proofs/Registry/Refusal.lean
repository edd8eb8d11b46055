import Mathlib
import Tenancy.Proofs.Registry.Assigning
import Tenancy.Proofs.Registry.Keeping

/-!
# Prefixes on file

A broker that hands prefixes out, on files that nobody else writes, but in which its registry cannot always
be written. What a call can do is said once (`Office.step_answers`). From it comes the invariant of a course of
calls (`Office.Kept.answers`): on file are the bindings in memory but for those of names that are `unsaved`, that
is, that came in when the registry could not be written and no time has it been written since. So a prefix
that is handed out is on file unless its name is unsaved (`Office.onFile_iff_of_loaded`).
-/

namespace Tenancy

namespace Files

/-- Writes a text into a file, unless that is refused. -/
def writeOr (refusal : Option FileFault) (fs : Files) (path text : String) : Except FileFault Files :=
  match refusal with
  | some fault => .error fault
  | none => fs.write path text

/-- What was written with a refusal in view was written. -/
lemma write_of_writeOr {refusal : Option FileFault} {fs gs : Files} {path text : String}
    (h : fs.writeOr refusal path text = .ok gs) : fs.write path text = .ok gs := by
  cases refusal with
  | none => exact h
  | some fault => cases h

/-- The answers of files where writing may be refused. -/
def answerOr (refusal : Option FileFault) : (r : FileRequest) → StateM Files (Except Failure r.Answer)
  | .read path => answer (.read path)
  | .write path text => fun fs =>
    match fs.writeOr refusal path text with
    | .ok fs => (.ok (), fs)
    | .error fault => (.error (.file fault), fs)

end Files

/-- A broker at work, with the files that hold its registry. -/
structure Office where
  broker : Broker
  files : Files
  /-- The names that came in when the registry could not be written, since it was last written. -/
  unsaved : List String := []

namespace Office
open Registry

/-- A tenant asks for a prefix, and writing may be refused. -/
structure Call where
  tenant : Option String
  refusal : Option FileFault

/-- What comes of a call. -/
def step (d : Office) (c : Call) : Except Failure (Option TablePrefix) × Office :=
  match ((d.broker.assign c.tenant).run (Files.answerOr c.refusal)).run d.files with
  | (.error failure, files) => (.error failure, { d with files })
  | (.ok (broker, result), files) =>
    let unsaved :=
      if broker.registry.size = d.broker.registry.size then d.unsaved
      else if result.isOk then [] else c.tenant.toList ++ d.unsaved
    (result, ⟨broker, files, unsaved⟩)

/-- The office after a course of calls. -/
def run (d : Office) (calls : List Call) : Office := calls.foldl (fun d c => (d.step c).2) d

variable {d : Office} {name : String} {p : TablePrefix} {r : Registry} {refusal : Option FileFault}

/-- A call that leaves the broker as it is. -/
lemma step_pure {c : Call} {result : Except Failure (Option TablePrefix)}
    (h : d.broker.assign c.tenant = pure (d.broker, result)) : d.step c = (result, d) := by
  rw [step, h]
  change (result, Office.mk _ _ (if d.broker.registry.size = d.broker.registry.size then d.unsaved else _)) = _
  rw [if_pos rfl]

/-- A name that is known gets its prefix, and nothing is saved. -/
lemma step_known (shared : d.broker.topology = .monolithic)
    (registered : d.broker.registry.register name = .ok (p, r)) (same : r.size = d.broker.registry.size) :
    d.step ⟨some name, refusal⟩ = (.ok (some p), { d with broker := { d.broker with registry := r } }) := by
  rw [step, Broker.assign_known shared registered same]
  change (Except.ok (some p), Office.mk _ _ (if r.size = d.broker.registry.size then d.unsaved else [])) = _
  rw [if_pos same]

/-- A name that is new gets its prefix once the registry is saved, and stays in memory if it is not. -/
lemma step_new (shared : d.broker.topology = .monolithic)
    (registered : d.broker.registry.register name = .ok (p, r)) (new : r.size ≠ d.broker.registry.size) :
    d.step ⟨some name, refusal⟩ =
      match d.files.writeOr refusal d.broker.registryPath r.text with
      | .ok files => (.ok (some p), ⟨{ d.broker with registry := r }, files, []⟩)
      | .error fault =>
        (.error (.file fault), ⟨{ d.broker with registry := r }, d.files, name :: d.unsaved⟩) := by
  have answered : ((do
      let saved ← Procedure.attempt (r.save d.broker.registryPath)
      return ({ d.broker with registry := r }, saved.map fun _ => some p) :
        Files.Filing (Broker × Except Failure (Option TablePrefix))).run (Files.answerOr refusal)).run d.files =
      match d.files.writeOr refusal d.broker.registryPath r.text with
      | .ok files => (.ok ({ d.broker with registry := r }, .ok (some p)), files)
      | .error fault => (.ok ({ d.broker with registry := r }, .error (.file fault)), d.files) := by
    change (fun out : Except Failure Unit × Files =>
      (Except.ok (({ d.broker with registry := r } : Broker), out.1.map fun _ => some p), out.2))
        (match d.files.writeOr refusal d.broker.registryPath r.text with
          | .ok files => (.ok (), files)
          | .error fault => (.error (.file fault), d.files)) = _
    cases d.files.writeOr refusal d.broker.registryPath r.text with
    | ok => rfl
    | error => rfl
  rw [step, Broker.assign_new shared registered new, answered]
  cases d.files.writeOr refusal d.broker.registryPath r.text with
  | ok files =>
    dsimp only
    rw [if_neg new]
    rfl
  | error fault =>
    dsimp only
    rw [if_neg new]
    rfl

/-- What can come of a call. -/
inductive Answers (d : Office) : Call → Except Failure (Option TablePrefix) → Office → Prop
  /-- The topology knows no prefixes. -/
  | none {c : Call} : Answers d c (.ok none) d
  /-- No prefix can be given. -/
  | refused {c : Call} {failure : Failure} (h : ∀ fault, failure ≠ .file fault) : Answers d c (.error failure) d
  /-- The prefix was given before. -/
  | known {name : String} {refusal : Option FileFault} {p : TablePrefix} (bound : d.broker.registry.tenant? p = some name) :
    Answers d ⟨some name, refusal⟩ (.ok (some p)) d
  /-- The prefix is given now, and the registry written. -/
  | saved {name : String} {refusal : Option FileFault} {p : TablePrefix} {files : Files}
    (own : TablePrefix.ofName name = .ok p)
    (free : d.broker.registry.tenant? p = none)
    (written : d.files.write d.broker.registryPath (d.broker.registry.bind p name).text = .ok files) :
    Answers d ⟨some name, refusal⟩ (.ok (some p))
      ⟨{ d.broker with registry := d.broker.registry.bind p name }, files, []⟩
  /-- The prefix is given now, but the registry cannot be written. -/
  | lost {name : String} {refusal : Option FileFault} {p : TablePrefix} {fault : FileFault}
    (own : TablePrefix.ofName name = .ok p)
    (free : d.broker.registry.tenant? p = none) :
    Answers d ⟨some name, refusal⟩ (.error (.file fault))
      ⟨{ d.broker with registry := d.broker.registry.bind p name }, d.files, name :: d.unsaved⟩

/-- Every call is answered as the office tells. -/
lemma step_answers (d : Office) (c : Call) : d.Answers c (d.step c).1 (d.step c).2 := by
  obtain ⟨tenant, refusal⟩ := c
  cases shared : d.broker.topology with
  | separate =>
    rw [step_pure (Broker.assign_separate shared tenant)]
    exact .none
  | monolithic =>
    cases tenant with
    | none =>
      rw [step_pure (c := ⟨none, refusal⟩) (Broker.assign_nobody shared)]
      exact .refused (by simp)
    | some name =>
      rcases registered : d.broker.registry.register name with failure | ⟨p, r⟩
      · rw [step_pure (c := ⟨some name, refusal⟩) (Broker.assign_refused shared registered)]
        exact .refused (register_ne_file registered)
      obtain ⟨own, ⟨bound, rfl⟩ | ⟨free, rfl⟩⟩ := register_eq_ok.1 registered
      · rw [step_known shared registered rfl]
        exact .known bound
      · rw [step_new shared registered (by simp [size_bind])]
        split
        · next files written =>
          exact .saved own free (Files.write_of_writeOr written)
        · exact .lost own free

/-! ## Courses of calls -/

/-- On file is what is in memory, but for the names that are unsaved. -/
structure Kept (d : Office) : Prop where
  sound : d.broker.registry.Sound
  filed : ∃ r, inFile d.broker.registryPath d.files = .ok r ∧
    ∀ p name, r.tenant? p = some name ↔ d.broker.registry.tenant? p = some name ∧ name ∉ d.unsaved

/-- A binding is on file if it is in memory and not among those that were not saved. -/
lemma Kept.onFile_iff (h : d.Kept) : OnFile d.broker.registryPath d.files p name ↔
    d.broker.registry.tenant? p = some name ∧ name ∉ d.unsaved := by
  obtain ⟨r, found, bound⟩ := h.filed
  rw [Registry.onFile_iff found, bound]

/-- The invariant of a course of calls. -/
lemma Kept.answers {c : Call} {result : Except Failure (Option TablePrefix)} {later : Office} (h : d.Kept)
    (answers : d.Answers c result later) : later.Kept := by
  cases answers with
  | none => exact h
  | refused => exact h
  | known => exact h
  | saved own free written =>
    have sound := h.sound.bind own free
    exact ⟨sound, _, sound.inFile_write written, by simp⟩
  | @lost name _ p _ own free =>
    obtain ⟨r, found, bound⟩ := h.filed
    refine ⟨h.sound.bind own free, r, found, fun q owner => ?_⟩
    rw [bound, h.sound.tenant?_bind free, List.mem_cons, not_or]
    constructor
    · rintro ⟨known, saved⟩
      refine ⟨.inr known, ?_, saved⟩
      -- the name has the new prefix only, and that was free
      rintro rfl
      obtain rfl : q = p := Except.ok.inj ((h.sound.ofName known).symm.trans own)
      cases free.symm.trans known
    · rintro ⟨⟨-, rfl⟩ | known, other, saved⟩
      · exact absurd rfl other
      · exact ⟨known, saved⟩

/-- What is so of an office stays so with any number of calls. -/
lemma Kept.run (h : d.Kept) (calls : List Call) : (d.run calls).Kept := by
  induction calls generalizing d with
  | nil => exact h
  | cons c calls ih => exact ih (h.answers (d.step_answers c))

/-- A broker whose registry was loaded from its file keeps what it hands out on file, but for what is
unsaved: a prefix that a call gives to a name is the name's on file exactly if the name is not unsaved. A call
that fails leaves the registry in memory as it was exactly if it was not the file that failed. -/
theorem onFile_iff_of_loaded {b : Broker} {files : Files}
    (loaded : (Files.carry (Registry.load b.registryPath) files).1 = .ok b.registry) (calls : List Call)
    (c : Call) :
    let d := run ⟨b, files, []⟩ calls
    (∀ p name, c.tenant = some name → (d.step c).1 = .ok (some p) →
      let later := (d.step c).2
      (OnFile later.broker.registryPath later.files p name ↔ name ∉ later.unsaved)) ∧
    ∀ failure, (d.step c).1 = .error failure →
      ((d.step c).2.broker.registry = d.broker.registry ↔ ∀ fault, failure ≠ .file fault) := by
  intro d
  have start : Kept ⟨b, files, []⟩ := by
    rw [carry_load] at loaded
    exact ⟨inFile_sound loaded, b.registry, loaded, by simp⟩
  have kept : d.Kept := start.run calls
  have answers := d.step_answers c
  have after := kept.answers answers
  generalize d.step c = out at answers after ⊢
  obtain ⟨result, later⟩ := out
  dsimp only at answers after ⊢
  refine ⟨?_, ?_⟩
  · rintro p name asked given
    rw [after.onFile_iff, and_iff_right]
    cases answers with
    | none => cases given
    | refused => cases given
    | known bound =>
      cases asked
      cases given
      exact bound
    | saved own free written =>
      cases asked
      cases given
      exact (kept.sound.tenant?_bind free).2 (.inl ⟨rfl, rfl⟩)
    | lost => cases given
  · rintro failure failed
    cases answers with
    | none => cases failed
    | refused h =>
      cases failed
      exact ⟨fun _ => h, fun _ => rfl⟩
    | known => cases failed
    | saved => cases failed
    | @lost name _ p _ own free =>
      cases failed
      refine ⟨fun same => ?_, fun other => absurd rfl (other _)⟩
      have grown : (d.broker.registry.bind p name).size = d.broker.registry.size := congrArg size same
      rw [size_bind] at grown
      omega

/-- An office whose registry would have to lie below a file. -/
def blocked : Office where
  broker := {
    address := ⟨"localhost", 5432, "family", "postgres", none, [], .bare⟩
    topology := .monolithic
    pool := none
    ownership := .standard
    registry := empty
    registryPath := "/a/t" }
  files := ⟨[], [(["a"], .file "")]⟩

/-- The registry was loaded where there was no file. -/
lemma loaded_blocked :
    (Files.carry (Registry.load blocked.broker.registryPath) blocked.files).1 = .ok blocked.broker.registry := by
  have absent : (⟨[], [(["a"], .file "")]⟩ : Files).content? "/a/t" = .ok none := by cbv
  rw [carry_load]
  change inFile "/a/t" ⟨[], [(["a"], .file "")]⟩ = .ok empty
  rw [inFile, absent]

/-- The file cannot be written there. -/
lemma write_blocked (text : String) :
    blocked.files.write blocked.broker.registryPath text = .error .exists := by
  change (⟨[], [(["a"], .file "")]⟩ : Files).write "/a/t" text = .error .exists
  cbv

/-- The prefix in the example is sanitized. -/
lemma sanitized_smith : Sanitized "smith_".toList := by decide

/-- The prefix of a tenant. -/
def smith : TablePrefix := ⟨"smith_", sanitized_smith⟩

/-- The name in the example is bound to it. -/
lemma register_smith : empty.register "Smith" = .ok (smith, empty.bind smith "Smith") :=
  register_eq_ok.2 ⟨rfl, .inr ⟨rfl, rfl⟩⟩

/-- The office after the tenant asked for the first time. -/
def blockedLater : Office :=
  ⟨{ blocked.broker with registry := empty.bind smith "Smith" }, blocked.files, ["Smith"]⟩

/-- The first call fails, and the binding stays in memory. -/
lemma step_blocked : blocked.step ⟨some "Smith", none⟩ = (.error (.file .exists), blockedLater) := by
  have new : (empty.bind smith "Smith").size ≠ empty.size := by
    rw [size_bind]
    exact Nat.succ_ne_self _
  rw [step_new rfl register_smith new, Files.writeOr, write_blocked]
  rfl

/-- The second call gives the prefix, with nothing on file. -/
lemma step_blockedLater : blockedLater.step ⟨some "Smith", none⟩ = (.ok (some smith), blockedLater) := by
  have registered : (empty.bind smith "Smith").register "Smith" = .ok (smith, empty.bind smith "Smith") :=
    register_eq_ok.2 ⟨rfl, .inl ⟨rfl, rfl⟩⟩
  exact step_known rfl registered rfl

/-- Whether the name is on file is told by whether it is among those that were not saved. -/
theorem onFile_iff_of_loaded_blocked :
    (Files.carry (Registry.load blocked.broker.registryPath) blocked.files).1 = .ok blocked.broker.registry ∧
      (OnFile "/a/t" (blockedLater.step ⟨some "Smith", none⟩).2.files smith "Smith" ↔
        "Smith" ∉ (blockedLater.step ⟨some "Smith", none⟩).2.unsaved) := by
  have known := (onFile_iff_of_loaded loaded_blocked [⟨some "Smith", none⟩] ⟨some "Smith", none⟩).1
  have later : run ⟨blocked.broker, blocked.files, []⟩ [⟨some "Smith", none⟩] = blockedLater :=
    congrArg Prod.snd step_blocked
  rw [later] at known
  have given : (blockedLater.step ⟨some "Smith", none⟩).1 = .ok (some smith) := by rw [step_blockedLater]
  refine ⟨loaded_blocked, ?_⟩
  have path : (blockedLater.step ⟨some "Smith", none⟩).2.broker.registryPath = "/a/t" := by
    rw [step_blockedLater]
    rfl
  rw [← path]
  exact known smith "Smith" rfl given

/-- A tenant whose registration could not be written is refused once; asked for again, the prefix is handed
out, and it is not on file. -/
theorem handed_out_unsaved :
    (Files.carry (Registry.load blocked.broker.registryPath) blocked.files).1 = .ok blocked.broker.registry ∧
      blocked.broker.topology = .monolithic ∧
      (blocked.step ⟨some "Smith", none⟩).1 = .error (.file .exists) ∧
      (blocked.step ⟨some "Smith", none⟩).2.broker.registry ≠ blocked.broker.registry ∧
      ((run blocked [⟨some "Smith", none⟩]).step ⟨some "Smith", none⟩).1 = .ok (some smith) ∧
      ¬ OnFile blocked.broker.registryPath
        ((run blocked [⟨some "Smith", none⟩]).step ⟨some "Smith", none⟩).2.files smith "Smith" := by
  have later : run blocked [⟨some "Smith", none⟩] = blockedLater := congrArg Prod.snd step_blocked
  rw [later, step_blocked, step_blockedLater]
  refine ⟨loaded_blocked, rfl, rfl, ?_, rfl, ?_⟩
  · intro same
    cases same
  rintro ⟨r, found, bound⟩
  cases loaded_blocked.symm.trans found
  cases bound

end Office
end Tenancy
