import Mathlib
import Tenancy.Command
import Tenancy.Proofs.Registry.Assigning
import Tenancy.Proofs.Registry.Keeping

/-!
# Processes that share a registry file

Any number of processes keep one registry file: some load it and hand prefixes out, others register a name
and are gone. Between the requests of one process those of others are answered, in any order (`Step`). A
process is current from when it reads or writes the file until another one writes it. `Fits` says how what a
process holds or is about to do goes with what is on file, and a step keeps that as long as only current
processes write and no writing fails (`System.Inv.step`). So what was granted stays on file, and no prefix is
granted to two names (`granted_stays`); a process that is not current overwrites what others registered
(`granted_lost`).
-/

namespace Tenancy

namespace Registry

/-- Registers a name in the registry of a file. -/
def enroll (path name : String) : Files.Filing TablePrefix := do
  let registry ← Registry.load path
  let (p, registry) ← Procedure.ofExcept (registry.register name)
  registry.save path
  return p

end Registry

namespace Job
variable {σ : Type} {α β : Type}

/-- Work on files changes the files of the world, and nothing else. -/
lemma run_filing (p : Files.Filing α) (d : Desk σ) : ((filing p : Job σ α).run).run d =
    ((Files.carry p d.world.files).1.mapError .failure,
      { d with world := { d.world with files := (Files.carry p d.world.files).2 } }) := rfl

/-- Work on files is done one after the other. -/
lemma filing_bind (p : Files.Filing α) (f : α → Files.Filing β) :
    (filing (p >>= f) : Job σ β) = filing p >>= fun a => filing (f a) := by
  refine ExceptT.ext (StateT.ext fun d => ?_)
  rw [run_filing, Files.carry_bind, ExceptT.run_bind, StateT.run_bind, run_filing]
  rcases Files.carry p d.world.files with ⟨failure | a, files⟩
  · rfl
  · rfl

end Job

/-- The command for it does so, and prints the prefix. -/
theorem Invocation.carryOut_register {σ : Type} [Server σ] {i : Invocation} {tenant : String}
    (h : i.command = .register tenant) (c : Configuration) (env : Environment) :
    i.carryOut c env = (do
      let p ← Job.filing (Registry.enroll (c.registryPath.getD (Environment.registryPath env)) tenant)
      Job.print s!"{tenant} -> {p.text}" : Job σ Unit) := by
  unfold carryOut Registry.enroll
  rw [h]
  simp only [Job.filing_bind, bind_assoc]
  rfl

namespace Rivals
open Registry

/-! ## Processes -/

/-- What a process does: it ends with the broker that it keeps, if it is to keep one, and with what it grants. -/
abbrev Program := Files.Filing (Option Broker × Option (TablePrefix × String))

/-- A broker is made: the registry is loaded. -/
def opening (b : Broker) : Program := do
  let registry ← Registry.load b.registryPath
  return (some { b with registry }, none)

/-- A broker is asked for the prefix of a tenant. -/
def assigning (b : Broker) (name : String) : Program := do
  let (b, result) ← b.assign (some name)
  return (some b, result.toOption.join.map (·, name))

/-- A name is registered by the command for it. -/
def enrolling (path name : String) : Program := do
  let p ← enroll path name
  return (none, some (p, name))

/-- A process: it has no broker, it has one at rest, or it is doing something. -/
inductive Process where
  | idle
  | opened (b : Broker)
  | busy (rest : Program)

/-- A process at rest, with the broker it keeps. -/
def Process.resting : Option Broker → Process
  | none => idle
  | some b => opened b

/-- Files, and the processes that work on them. -/
structure System (ι : Type) where
  files : Files
  process : ι → Process
  /-- The processes that read or wrote the file, and no other wrote it since. -/
  current : Set ι := ∅
  /-- Prefixes and the names they were granted to. -/
  granted : List (TablePrefix × String) := []

variable {ι : Type} [DecidableEq ι] {path : String}

namespace System

/-- The system with another process `i`. -/
def put (s : System ι) (i : ι) (q : Process) : System ι :=
  { s with process := Function.update s.process i q }

/-- The system in which a process has read the file. -/
def readBy (s : System ι) (i : ι) : System ι := { s with current := insert i s.current }

/-- The system in which a process has written the file. -/
def writtenBy (s : System ι) (i : ι) (files : Files) : System ι := { s with files, current := {i} }

/-- The system in which something was granted. -/
def grant (s : System ι) (grant : Option (TablePrefix × String)) : System ι :=
  { s with granted := grant.toList ++ s.granted }

end System

/-- A step of one process, which begins something, is answered, or ends. If things go `orderly`, only
current processes write, and no writing fails. -/
inductive Step (path : String) (orderly : Prop) (s : System ι) : System ι → Prop
  | opens {i : ι} (rest : s.process i = .idle) {b : Broker} (shared : b.registryPath = path) :
    Step path orderly s (s.put i (.busy (opening b)))
  | assigns {i : ι} {b : Broker} (rest : s.process i = .opened b) (name : String) :
    Step path orderly s (s.put i (.busy (assigning b name)))
  | enrolls {i : ι} (rest : s.process i = .idle) (name : String) :
    Step path orderly s (s.put i (.busy (enrolling path name)))
  | reads {i : ι} {place : String} {next : Except Failure (Option String) → Program}
    (asks : s.process i = .busy (.ask (.read place) next)) :
    Step path orderly s ((s.readBy i).put i (.busy (next ((s.files.content? place).mapError .file))))
  | writes {i : ι} {place text : String} {next : Except Failure Unit → Program}
    (asks : s.process i = .busy (.ask (.write place text) next)) (current : orderly → i ∈ s.current)
    {files : Files} (written : s.files.write place text = .ok files) :
    Step path orderly s ((s.writtenBy i files).put i (.busy (next (.ok ()))))
  /-- Whatever the reason, the files stay as they are. -/
  | refused {i : ι} {place text : String} {next : Except Failure Unit → Program}
    (asks : s.process i = .busy (.ask (.write place text) next)) (unruly : ¬ orderly) (fault : FileFault) :
    Step path orderly s (s.put i (.busy (next (.error (.file fault)))))
  | ends {i : ι} {kept : Option Broker} {grant : Option (TablePrefix × String)}
    (done : s.process i = .busy (.done (.ok (kept, grant)))) :
    Step path orderly s ((s.grant grant).put i (.resting kept))
  | fails {i : ι} {failure : Failure} (done : s.process i = .busy (.done (.error failure))) :
    Step path orderly s (s.put i .idle)

/-- A run of any number of steps. -/
def Run (path : String) (orderly : Prop) : System ι → System ι → Prop :=
  Relation.ReflTransGen (Step path orderly)

/-- No process has begun anything. -/
def start (files : Files) : System ι := { files, process := fun _ => .idle }

/-! ## What fits a file -/

/-- Whether the file has all that a registry binds; that of a current process is the file's. -/
def Knows (path : String) (files : Files) (current : Prop) (r : Registry) : Prop :=
  ∃ f, inFile path files = .ok f ∧ (∀ p name, r.tenant? p = some name → f.tenant? p = some name) ∧
    (current → f = r)

/-- How what a process has or is about to do goes with the file. -/
inductive Fits (path : String) : Files → Prop → Process → Prop
  | idle {files : Files} {current : Prop} : Fits path files current .idle
  | opened {files : Files} {current : Prop} {b : Broker} (shared : b.registryPath = path)
    (knows : Knows path files current b.registry) : Fits path files current (.opened b)
  | reads {files : Files} {current : Prop} {next : Except Failure (Option String) → Program}
    (goesOn : ∀ later : Files, Fits path later True (.busy (next ((later.content? path).mapError .file)))) :
    Fits path files current (.busy (.ask (.read path) next))
  | writes {files : Files} {current : Prop} {r later : Registry} {p : TablePrefix} {name : String}
    {kept : Option Broker} {next : Except Failure Unit → Program} (knows : Knows path files current r)
    (registered : r.register name = .ok (p, later))
    (memory : ∀ b ∈ kept, b.registryPath = path ∧ b.registry = later)
    (goesOn : next (.ok ()) = .done (.ok (kept, some (p, name)))) :
    Fits path files current (.busy (.ask (.write path later.text) next))
  | ends {files : Files} {current : Prop} {kept : Option Broker} {grant : Option (TablePrefix × String)}
    (memory : ∀ b ∈ kept, b.registryPath = path ∧ Knows path files current b.registry)
    (filed : ∀ g ∈ grant, OnFile path files g.1 g.2) :
    Fits path files current (.busy (.done (.ok (kept, grant))))
  | fails {files : Files} {current : Prop} {failure : Failure} :
    Fits path files current (.busy (.done (.error failure)))

variable {files later : Files} {current : Prop} {b : Broker} {q : Process}

/-- A registry that was just read. -/
lemma knows_inFile {r : Registry} (h : inFile path files = .ok r) : Knows path files current r :=
  ⟨r, h, fun _ _ bound => bound, fun _ => rfl⟩

/-- A program that loads the registry asks for the file, and then goes on with the registry in it. -/
lemma load_bind (path : String) (next : Registry → Program) :
    ∃ k : Except Failure (Option String) → Program,
    Registry.load path >>= next = .ask (.read path) k ∧ ∀ files : Files,
      k ((files.content? path).mapError .file) = Procedure.ofExcept (inFile path files) >>= next := by
  refine ⟨_, rfl, fun files => ?_⟩
  unfold inFile
  rcases files.content? path with fault | _ | text
  · rfl
  · rfl
  · rfl

/-- A process that reads the registry fits, if it does with any registry that it can read. -/
lemma fits_load {next : Registry → Program}
    (goesOn : ∀ later r, inFile path later = .ok r → Fits path later True (.busy (next r))) :
    Fits path files current (.busy (Registry.load path >>= next)) := by
  obtain ⟨k, eq, answered⟩ := load_bind path next
  rw [eq]
  refine .reads fun later => ?_
  rw [answered]
  rcases found : inFile path later with failure | r
  · exact .fails
  · exact goesOn later r found

/-- So does one that opens a broker for the file. -/
lemma fits_opening (shared : b.registryPath = path) : Fits path files current (.busy (opening b)) := by
  cases shared
  refine fits_load fun later r found => .ends ?_ (by simp)
  rintro _ ⟨⟩
  exact ⟨rfl, knows_inFile found⟩

/-- So does one that enrolls a name in it. -/
lemma fits_enrolling (name : String) : Fits path files current (.busy (enrolling path name)) := by
  unfold enrolling enroll
  rw [bind_assoc]
  refine fits_load fun later r found => ?_
  rcases registered : r.register name with failure | ⟨p, s⟩
  · exact .fails
  · exact .writes (knows_inFile found) registered (by simp) rfl

/-- So does one that assigns a prefix and knows what the file holds. -/
lemma fits_assigning (shared : b.registryPath = path) (knows : Knows path files current b.registry)
    (name : String) : Fits path files current (.busy (assigning b name)) := by
  have same : ∀ c ∈ some b, c.registryPath = path ∧ Knows path files current c.registry := by
    rintro _ ⟨⟩
    exact ⟨shared, knows⟩
  unfold assigning
  cases mode : b.topology with
  | separate =>
    rw [Broker.assign_separate mode]
    exact .ends same (by rintro _ ⟨⟩)
  | monolithic =>
    rcases registered : b.registry.register name with failure | ⟨p, s⟩
    · rw [Broker.assign_refused mode registered]
      exact .ends same (by rintro _ ⟨⟩)
    obtain ⟨-, ⟨bound, rfl⟩ | ⟨free, rfl⟩⟩ := register_eq_ok.1 registered
    · rw [Broker.assign_known mode registered rfl]
      refine .ends same ?_
      rintro _ ⟨⟩
      obtain ⟨f, found, holds, -⟩ := knows
      exact (onFile_iff found).2 (holds p name bound)
    · rw [Broker.assign_new mode registered (by simp [size_bind])]
      cases shared
      refine .writes knows registered ?_ rfl
      rintro _ ⟨⟩
      exact ⟨rfl, rfl⟩

/-! ## Steps -/

/-- Whether what is bound on file stays bound. -/
def Grows (path : String) (files later : Files) : Prop :=
  ∀ f, inFile path files = .ok f → ∃ g, inFile path later = .ok g ∧
    ∀ p name, f.tenant? p = some name → g.tenant? p = some name

/-- Files that do not change lose nothing. -/
lemma Grows.refl : Grows path files files := fun f found => ⟨f, found, fun _ _ bound => bound⟩

/-- A name that is on file stays there while files lose nothing. -/
lemma Grows.onFile (h : Grows path files later) {p : TablePrefix} {name : String}
    (filed : OnFile path files p name) : OnFile path later p name := by
  obtain ⟨f, found, bound⟩ := filed
  rw [carry_load] at found
  obtain ⟨g, found', holds⟩ := h f found
  exact (onFile_iff found').2 (holds p name bound)

/-- A file that loses nothing still has all that a registry binds. -/
lemma Knows.grows {r : Registry} (h : Knows path files current r) (grows : Grows path files later) :
    Knows path later False r := by
  obtain ⟨f, found, holds, -⟩ := h
  obtain ⟨g, found', holds'⟩ := grows f found
  exact ⟨g, found', fun p name bound => holds' p name (holds p name bound), False.elim⟩

/-- What fits a file fits it when others have added to it. -/
lemma Fits.grows (h : Fits path files current q) (grows : Grows path files later) :
    Fits path later False q := by
  cases h with
  | idle => exact .idle
  | opened shared knows => exact .opened shared (knows.grows grows)
  | reads goesOn => exact .reads goesOn
  | writes knows registered memory goesOn => exact .writes (knows.grows grows) registered memory goesOn
  | ends memory filed =>
    exact .ends (fun b mem => ⟨(memory b mem).1, (memory b mem).2.grows grows⟩)
      fun g mem => grows.onFile (filed g mem)
  | fails => exact .fails

/-- A current process that writes adds to the file, and fits it afterwards. -/
lemma Fits.writes_ok {place text : String} {next : Except Failure Unit → Program}
    (h : Fits path files True (.busy (.ask (.write place text) next)))
    (written : files.write place text = .ok later) :
    Grows path files later ∧ Fits path later True (.busy (next (.ok ()))) := by
  cases h with
  | @writes _ _ r s p name kept next knows registered memory goesOn =>
    obtain ⟨f, found, -, same⟩ := knows
    obtain rfl := same trivial
    have sound := inFile_sound found
    have now : inFile path later = .ok s := (sound.register registered).inFile_write written
    have bound (q : TablePrefix) (owner : String) : s.tenant? q = some owner ↔
        p = q ∧ name = owner ∨ f.tenant? q = some owner := sound.tenant?_register registered
    refine ⟨fun g found' => ?_, ?_⟩
    · cases found.symm.trans found'
      exact ⟨s, now, fun q owner known => (bound q owner).2 (.inr known)⟩
    · rw [goesOn]
      refine .ends (fun b mem => ?_) ?_
      · obtain ⟨shared, rfl⟩ := memory b mem
        exact ⟨shared, knows_inFile now⟩
      · rintro _ ⟨⟩
        exact (onFile_iff now).2 ((bound p name).2 (.inl ⟨rfl, rfl⟩))

/-- It is less to fit without being current. -/
lemma Fits.weaken {less : Prop} (h : Fits path files current q) (le : less → current) : Fits path files less q := by
  have knows {r : Registry} (h : Knows path files current r) : Knows path files less r := by
    obtain ⟨f, found, holds, same⟩ := h
    exact ⟨f, found, holds, fun h => same (le h)⟩
  cases h with
  | idle => exact .idle
  | opened shared known => exact .opened shared (knows known)
  | reads goesOn => exact .reads goesOn
  | writes known registered memory goesOn => exact .writes (knows known) registered memory goesOn
  | ends memory filed => exact .ends (fun b mem => ⟨(memory b mem).1, knows (memory b mem).2⟩) filed
  | fails => exact .fails

/-- The invariant of orderly runs: every process fits the file, and what was granted is on file. -/
structure System.Inv (path : String) (s : System ι) : Prop where
  fits : ∀ i, Fits path s.files (i ∈ s.current) (s.process i)
  filed : ∀ g ∈ s.granted, OnFile path s.files g.1 g.2

variable {s t : System ι}

/-- A process that goes on while the files stay as they are. -/
lemma System.Inv.goOn (h : s.Inv path) {i : ι} {set : Set ι} (others : ∀ j, j ≠ i → j ∈ set → j ∈ s.current)
    (fits : Fits path s.files (i ∈ set) q) {granted : List (TablePrefix × String)}
    (filed : ∀ g ∈ granted, OnFile path s.files g.1 g.2) :
    Inv path { s.put i q with current := set, granted } := by
  refine ⟨fun j => ?_, filed⟩
  change Fits path s.files (j ∈ set) (Function.update s.process i q j)
  by_cases same : j = i
  · subst same
    rwa [Function.update_self]
  · rw [Function.update_of_ne same]
    exact (h.fits j).weaken (others j same)

/-- An orderly step keeps the invariant, and what is on file stays there. -/
lemma System.Inv.step (h : s.Inv path) (step : Step path True s t) : t.Inv path ∧ Grows path s.files t.files := by
  cases step with
  | @opens i rest b shared => exact ⟨h.goOn (fun _ _ mem => mem) (fits_opening shared) h.filed, .refl⟩
  | @assigns i b rest name =>
    have fits := h.fits i
    rw [rest] at fits
    cases fits with
    | opened shared knows => exact ⟨h.goOn (fun _ _ mem => mem) (fits_assigning shared knows name) h.filed, .refl⟩
  | @enrolls i rest name => exact ⟨h.goOn (fun _ _ mem => mem) (fits_enrolling name) h.filed, .refl⟩
  | @reads i place next asks =>
    have fits := h.fits i
    rw [asks] at fits
    cases fits with
    | reads goesOn =>
      exact ⟨h.goOn (fun j ne mem => mem.resolve_left ne) ((goesOn s.files).weaken fun _ => trivial) h.filed, .refl⟩
  | @writes i place text next asks current files written =>
    have fits := h.fits i
    rw [asks] at fits
    obtain ⟨grows, after⟩ := (fits.weaken fun _ => current trivial).writes_ok written
    refine ⟨⟨fun j => ?_, fun g mem => grows.onFile (h.filed g mem)⟩, grows⟩
    change Fits path files (j ∈ ({i} : Set ι)) (Function.update s.process i _ j)
    by_cases same : j = i
    · subst same
      rw [Function.update_self]
      exact after.weaken fun _ => trivial
    · rw [Function.update_of_ne same]
      exact ((h.fits j).grows grows).weaken same
  | refused asks unruly => exact absurd trivial unruly
  | @ends i kept grant done =>
    have fits := h.fits i
    rw [done] at fits
    cases fits with
    | ends memory filed =>
      refine ⟨h.goOn (fun _ _ mem => mem) ?_ ?_, .refl⟩
      · cases kept with
        | none => exact .idle
        | some b => exact .opened (memory b rfl).1 (memory b rfl).2
      · intro g mem
        rcases List.mem_append.1 mem with new | old
        · exact filed g (Option.mem_toList.1 new)
        · exact h.filed g old
  | @fails i failure done => exact ⟨h.goOn (fun _ _ mem => mem) .idle h.filed, .refl⟩

/-- So does an orderly run. -/
lemma System.Inv.run (h : s.Inv path) (run : Run path True s t) : t.Inv path ∧ Grows path s.files t.files := by
  induction run with
  | refl => exact ⟨h, .refl⟩
  | tail _ step ih =>
    obtain ⟨inv, grows⟩ := ih
    obtain ⟨inv, grows'⟩ := inv.step step
    refine ⟨inv, fun f found => ?_⟩
    obtain ⟨g, found, holds⟩ := grows f found
    obtain ⟨k, found, holds'⟩ := grows' g found
    exact ⟨k, found, fun p name bound => holds' p name (holds p name bound)⟩

/-- As long as only current processes write and no writing fails, what was granted is on file ever after, and
no two names are granted one prefix. -/
theorem granted_stays {files : Files} {s t : System ι} (before : Run path True (start files) s)
    (after : Run path True s t) :
    (∀ p name, (p, name) ∈ s.granted → OnFile path t.files p name) ∧
      ∀ p name owner, (p, name) ∈ t.granted → (p, owner) ∈ t.granted → name = owner := by
  have first : (start files : System ι).Inv path := ⟨fun _ => .idle, by simp [start]⟩
  obtain ⟨inv, -⟩ := first.run before
  obtain ⟨last, grows⟩ := inv.run after
  refine ⟨fun p name mem => grows.onFile (inv.filed _ mem), fun p name owner mem mem' => ?_⟩
  obtain ⟨f, found, bound⟩ := last.filed _ mem
  obtain ⟨g, found', bound'⟩ := last.filed _ mem'
  obtain rfl : f = g := Except.ok.inj (found.symm.trans found')
  exact Option.some.inj (bound.symm.trans bound')

/-! ## Runs of one process -/

section Runs
variable {orderly : Prop} {i : ι} {r : Registry}

/-- What a process does last counts. -/
lemma put_put (s : System ι) (i : ι) (q q' : Process) : (s.put i q).put i q' = s.put i q' := by
  simp [System.put]

/-- The process that was put there is there. -/
lemma put_process (s : System ι) (i : ι) (q : Process) : (s.put i q).process i = q := Function.update_self ..

/-- A process loads the registry and goes on with it. -/
lemma step_load {next : Registry → Program} (found : inFile path s.files = .ok r) :
    Step path orderly (s.put i (.busy (Registry.load path >>= next))) ((s.readBy i).put i (.busy (next r))) := by
  obtain ⟨k, eq, answered⟩ := load_bind path next
  have step : Step path orderly (s.put i (.busy (Registry.load path >>= next))) _ :=
    .reads (by rw [put_process, eq])
  change Step _ _ _ (((s.readBy i).put i _).put i (.busy (k ((s.files.content? path).mapError .file)))) at step
  rw [put_put, answered, found] at step
  exact step

/-- A process that is done rests, and what it was granted is told. -/
lemma step_ends (kept : Option Broker) (grant : Option (TablePrefix × String)) :
    Step path orderly (s.put i (.busy (.done (.ok (kept, grant))))) ((s.grant grant).put i (.resting kept)) := by
  have step : Step path orderly (s.put i (.busy (.done (.ok (kept, grant))))) _ := .ends (put_process s i _)
  change Step _ _ _ (((s.grant grant).put i _).put i _) at step
  rwa [put_put] at step

/-- A process makes itself a broker without being disturbed. -/
lemma run_opening (idle : s.process i = .idle) (shared : b.registryPath = path)
    (found : inFile path s.files = .ok r) :
    Run path orderly s ((s.readBy i).put i (.opened { b with registry := r })) := by
  cases shared
  have begun : Step b.registryPath orderly s _ := .opens idle rfl
  exact ((Relation.ReflTransGen.single begun).tail (step_load found)).tail (step_ends _ none)

/-- A process that writes the file goes on. -/
lemma step_writes {text : String} {next : Except Failure Unit → Program} {files : Files}
    (current : orderly → i ∈ s.current) (written : s.files.write path text = .ok files) :
    Step path orderly (s.put i (.busy (.ask (.write path text) next)))
      ((s.writtenBy i files).put i (.busy (next (.ok ())))) := by
  have step : Step path orderly (s.put i (.busy (.ask (.write path text) next))) _ :=
    .writes (put_process s i _) current written
  change Step _ _ _ (((s.writtenBy i files).put i _).put i _) at step
  rwa [put_put] at step

/-- A process registers a name without being disturbed. -/
lemma run_enrolling {later : Registry} {p : TablePrefix} {name : String} {files : Files}
    (idle : s.process i = .idle) (found : inFile path s.files = .ok r)
    (registered : r.register name = .ok (p, later)) (written : s.files.write path later.text = .ok files) :
    Run path orderly s (((s.writtenBy i files).grant (some (p, name))).put i .idle) := by
  have begun : Step path orderly s _ := .enrolls idle name
  unfold enrolling enroll at begun
  rw [bind_assoc] at begun
  have read := (Relation.ReflTransGen.single begun).tail (step_load found)
  rw [registered] at read
  exact (read.tail (step_writes (fun _ => Set.mem_insert i _) written)).tail (step_ends none (some (p, name)))

/-- A broker registers a name without being disturbed. -/
lemma run_assigning {later : Registry} {p : TablePrefix} {name : String} {files : Files}
    (opened : s.process i = .opened b) (mode : b.topology = .monolithic)
    (registered : b.registry.register name = .ok (p, later)) (new : later.size ≠ b.registry.size)
    (current : orderly → i ∈ s.current) (written : s.files.write b.registryPath later.text = .ok files) :
    Run b.registryPath orderly s
      (((s.writtenBy i files).grant (some (p, name))).put i (.opened { b with registry := later })) := by
  have begun : Step b.registryPath orderly s _ := .assigns opened name
  unfold assigning at begun
  rw [Broker.assign_new mode registered new] at begun
  exact ((Relation.ReflTransGen.single begun).tail (step_writes current written)).tail
    (step_ends (some { b with registry := later }) (some (p, name)))

end Runs

/-! ## Two names with one prefix -/

/-- A broker whose registry is to be kept in a file. -/
def office : Broker where
  address := ⟨"localhost", 5432, "family", "postgres", none, [], .bare⟩
  topology := .monolithic
  pool := none
  ownership := .standard
  registry := empty
  registryPath := "/a/t"

/-- The files once a text was written. -/
def written (text : String) : Files := ⟨[], [(["a", "t"], .file text), (["a"], .directory)]⟩

/-- A file is written where there was none. -/
lemma write_first (text : String) : Files.write {} "/a/t" text = .ok (written text) := by
  unfold written
  cbv

/-- It is written in the place of another. -/
lemma write_again (text other : String) : (written text).write "/a/t" other = .ok (written other) := by
  unfold written
  cbv

/-- Where there is no file, the registry is empty. -/
lemma inFile_absent : inFile "/a/t" {} = .ok empty := by
  have absent : Files.content? {} "/a/t" = .ok none := by cbv
  rw [inFile, absent]

/-- The prefix of both names. -/
def brien : TablePrefix := ⟨"o_brien_family_", by decide⟩

/-- A name is bound to its prefix. -/
lemma register_first : empty.register "O'Brien Family" = .ok (brien, empty.bind brien "O'Brien Family") :=
  register_eq_ok.2 ⟨rfl, .inr ⟨rfl, rfl⟩⟩

/-- Another name has the same prefix. -/
lemma register_second : empty.register "O_Brien Family" = .ok (brien, empty.bind brien "O_Brien Family") :=
  register_eq_ok.2 ⟨rfl, .inr ⟨rfl, rfl⟩⟩

/-- The system once the first name is registered by one process. -/
def registeredFirst (s : System Bool) : System Bool :=
  ((s.writtenBy true (written (empty.bind brien "O'Brien Family").text)).grant
    (some (brien, "O'Brien Family"))).put true .idle

/-- A process reads no file, registers the one name and saves it. -/
lemma run_registeredFirst {orderly : Prop} {s : System Bool} (idle : s.process true = .idle)
    (nothing : s.files = {}) : Run "/a/t" orderly s (registeredFirst s) :=
  run_enrolling idle (by rw [nothing, inFile_absent]) register_first (by rw [nothing, write_first])

/-- The prefix of another name is sanitized. -/
lemma sanitized_smith : Sanitized "smith_".toList := by decide

/-- The prefix of another name. -/
def smith : TablePrefix := ⟨"smith_", sanitized_smith⟩

/-- The registry of the first name. -/
def firstRegistry : Registry := empty.bind brien "O'Brien Family"

/-- A name with another prefix is bound next to it. -/
lemma register_other : firstRegistry.register "Smith" = .ok (smith, firstRegistry.bind smith "Smith") :=
  register_eq_ok.2 ⟨rfl, .inr ⟨by decide, rfl⟩⟩

/-- A broker reads the file after the first name was registered. -/
def readFirst : System Bool :=
  ((registeredFirst (start {})).readBy false).put false (.opened { office with registry := firstRegistry })

/-- Then it registers the other name. -/
def registeredOther : System Bool :=
  ((readFirst.writtenBy false (written (firstRegistry.bind smith "Smith").text)).grant
    (some (smith, "Smith"))).put false
      (.opened { office with registry := firstRegistry.bind smith "Smith" })

/-- A command registers a name, and a broker that reads the file thereafter another one: both stay. -/
theorem granted_stays_registered :
    Run "/a/t" True (start {}) (registeredFirst (start {})) ∧
      Run "/a/t" True (registeredFirst (start {})) registeredOther ∧
      OnFile "/a/t" (registeredFirst (start {})).files brien "O'Brien Family" ∧
      OnFile "/a/t" registeredOther.files brien "O'Brien Family" ∧
      OnFile "/a/t" registeredOther.files smith "Smith" := by
  have first : Run "/a/t" True (start {}) (registeredFirst (start {})) := run_registeredFirst rfl rfl
  have filed : inFile "/a/t" (registeredFirst (start {})).files = .ok firstRegistry :=
    (sound_empty.register register_first).inFile_write (write_first _)
  have reads : Run "/a/t" True (registeredFirst (start {})) readFirst :=
    run_opening (b := office) rfl rfl filed
  have new : (firstRegistry.bind smith "Smith").size ≠ firstRegistry.size := by
    rw [size_bind]
    exact Nat.succ_ne_self _
  have assigns : Run "/a/t" True readFirst registeredOther :=
    run_assigning (b := { office with registry := firstRegistry }) rfl rfl register_other new
      (fun _ => Set.mem_insert false _) (write_again _ _)
  have after := reads.trans assigns
  have granted : (brien, "O'Brien Family") ∈ (registeredFirst (start {})).granted := .head _
  have granted' : (smith, "Smith") ∈ registeredOther.granted := .head _
  exact ⟨first, after, (granted_stays first .refl).1 _ _ granted, (granted_stays first after).1 _ _ granted,
    (granted_stays (first.trans after) .refl).1 _ _ granted'⟩

/-- A broker has loaded the registry. -/
def loadedFirst : System Bool := ((start {}).readBy false).put false (.opened office)

/-- Then the command has registered the first name, and the broker the second one. -/
def registeredSecond : System Bool :=
  (((registeredFirst loadedFirst).writtenBy false (written (empty.bind brien "O_Brien Family").text)).grant
    (some (brien, "O_Brien Family"))).put false (.opened { office with registry := empty.bind brien "O_Brien Family" })

/-- A broker loads the registry, the command registers a name, and the broker a second one with the same
prefix: both are granted, and the first is no longer on file. -/
theorem granted_lost :
    Run "/a/t" False (start {}) (registeredFirst loadedFirst) ∧
      Run "/a/t" False (registeredFirst loadedFirst) registeredSecond ∧
      (brien, "O'Brien Family") ∈ (registeredFirst loadedFirst).granted ∧
      ¬ OnFile "/a/t" registeredSecond.files brien "O'Brien Family" ∧
      (brien, "O'Brien Family") ∈ registeredSecond.granted ∧
      (brien, "O_Brien Family") ∈ registeredSecond.granted := by
  have opens : Run "/a/t" False (start {}) loadedFirst :=
    run_opening (b := office) rfl rfl inFile_absent
  have new : (empty.bind brien "O_Brien Family").size ≠ empty.size := by
    rw [size_bind]
    exact Nat.succ_ne_self _
  have assigns : Run "/a/t" False (registeredFirst loadedFirst) registeredSecond :=
    run_assigning (b := office) rfl rfl register_second new False.elim (write_again _ _)
  have filed : inFile "/a/t" registeredSecond.files = .ok (empty.bind brien "O_Brien Family") :=
    (sound_empty.register register_second).inFile_write (write_again (empty.bind brien "O'Brien Family").text _)
  refine ⟨opens.trans (run_registeredFirst rfl rfl), assigns, .head _, ?_, .tail _ (.head _), .head _⟩
  rw [onFile_iff filed]
  decide

end Rivals
end Tenancy
