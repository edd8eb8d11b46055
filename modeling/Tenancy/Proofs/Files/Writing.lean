import Mathlib.Data.List.Infix
import Tenancy.Files

/-!
# Writing and reading a file

What was written into a file is read from it (`content_write`): the directories on the way to it are there
(`directories_makeDirectories`), so that the way down ends at the file (`descend_eq`).
-/

namespace Tenancy.Files

variable {fs gs : Files} {here names place other : List String} {entry : Entry}

/-! ## Entries -/

/-- A place that is no directory is not the root. -/
lemma ne_nil_of_entry (h : fs.entry? place ≠ some .directory) : place ≠ [] := by
  rintro rfl
  exact h rfl

/-- What is put at a place that is no directory is there. -/
lemma entry_put (h : fs.entry? place ≠ some .directory) : Files.entry? (fs.put place entry) place = some entry := by
  simp [put, entry?, ne_nil_of_entry h]

/-- At all other places is what was there. -/
lemma entry_put_of_ne (ne : other ≠ place) : Files.entry? (fs.put place entry) other = fs.entry? other := by
  unfold put entry?
  rw [List.find?_cons_of_neg (by simpa using ne.symm), List.find?_filter]
  congr 3
  funext e
  by_cases same : e.1 = other
  · simp [same, ne]
  · simp [same]

/-- A new entry changes none that was there. -/
lemma entry_put_of_none (none : fs.entry? place = none) {found : Entry} (h : fs.entry? other = some found) :
    Files.entry? (fs.put place entry) other = some found := by
  rw [entry_put_of_ne, h]
  rintro rfl
  cases none.symm.trans h

/-! ## Directories -/

/-- What is there stays when directories are made. -/
lemma makeDirectories_keeps (h : fs.makeDirectories here names = .ok gs) :
    gs.workingDirectory = fs.workingDirectory ∧
      ∀ place entry, fs.entry? place = some entry → gs.entry? place = some entry := by
  induction names generalizing fs here with
  | nil =>
    rw [makeDirectories] at h
    split at h
    · cases h
    · cases h
      exact ⟨rfl, fun _ _ found => found⟩
    · next none =>
      cases h
      exact ⟨rfl, fun _ _ found => entry_put_of_none none found⟩
  | cons name names ih =>
    rw [makeDirectories] at h
    split at h
    · cases h
    · exact ih h
    · next none =>
      obtain ⟨same, keeps⟩ := ih h
      exact ⟨same, fun place entry found => keeps place entry (entry_put_of_none none found)⟩

/-- All directories on the way are there once they are made. -/
lemma directories_makeDirectories (h : fs.makeDirectories here names = .ok gs) :
    ∀ ns, ns <+: names → gs.entry? (here ++ ns) = some .directory := by
  induction names generalizing fs here with
  | nil =>
    intro ns start
    rw [List.prefix_nil.1 start, List.append_nil]
    rw [makeDirectories] at h
    split at h
    · cases h
    · next found =>
      cases h
      exact found
    · next none =>
      cases h
      exact entry_put (by simp [none])
  | cons name names ih =>
    intro ns start
    rw [makeDirectories] at h
    rcases List.prefix_cons_iff.1 start with rfl | ⟨ns, rfl, rest⟩
    · rw [List.append_nil]
      split at h
      · cases h
      · next found => exact (makeDirectories_keeps h).2 _ _ found
      · next none => exact (makeDirectories_keeps h).2 _ _ (entry_put (by simp [none]))
    · rw [← List.singleton_append, ← List.append_assoc]
      split at h
      · cases h
      · exact ih h ns rest
      · exact ih h ns rest

/-- The way down through directories ends at the entry there. -/
lemma descend_eq (way : ∀ ns, ns <+: names → ns ≠ names → fs.entry? (here ++ ns) = some .directory)
    (last : fs.entry? (here ++ names) = some entry) : fs.descend here names = .ok entry := by
  induction names generalizing here with
  | nil =>
    rw [List.append_nil] at last
    rw [descend, last]
  | cons name names ih =>
    have first := way [] List.nil_prefix (List.cons_ne_nil _ _).symm
    rw [List.append_nil] at first
    rw [descend, first]
    refine ih (fun ns start ne => ?_) (by rwa [List.append_assoc, List.singleton_append])
    rw [List.append_assoc, List.singleton_append]
    exact way (name :: ns) ((List.prefix_cons_inj name).2 start) fun eq => ne (List.cons.inj eq).2

/-! ## Files -/

/-- All that has to be so for a text to be written. -/
lemma write_eq_ok {path text : String} (h : fs.write path text = .ok gs) :
    pathFault? path = none ∧ ¬ endsInSlash path ∧ ∃ made,
      fs.makeDirectories [] (fs.place path).dropLast = .ok made ∧
      made.entry? (fs.place path) ≠ some .directory ∧ gs = made.put (fs.place path) (.file text) := by
  unfold write at h
  split at h
  · cases h
  · next sound =>
    dsimp only at h
    rcases eq : fs.makeDirectories [] (fs.place path).dropLast with fault | made
    · rw [eq] at h
      cases h
    · rw [eq] at h
      change (if endsInSlash path ∨ made.entry? (fs.place path) = some .directory then
        Except.error FileFault.isDirectory else .ok (made.put (fs.place path) (.file text))) = .ok gs at h
      split at h
      · cases h
      · next free =>
        obtain ⟨slash, free⟩ := not_or.1 free
        cases h
        exact ⟨sound, slash, made, rfl, free, rfl⟩

/-- A text that was written into a file is what the file holds. -/
theorem content_write {path text : String} (h : fs.write path text = .ok gs) :
    gs.content? path = .ok (some text) := by
  obtain ⟨sound, slash, made, directories, free, rfl⟩ := write_eq_ok h
  set place := fs.place path with place_def
  have same : (made.put place (.file text)).place path = place := by
    rw [place_def, Files.place, Files.place]
    exact congrArg (fun start => walk (if path.startsWith "/" then [] else start) (names path))
      (makeDirectories_keeps directories).1
  have last : Files.entry? (made.put place (.file text)) ([] ++ place) = some (.file text) := entry_put free
  have way (ns : List String) (start : ns <+: place) (ne : ns ≠ place) :
      Files.entry? (made.put place (.file text)) ([] ++ ns) = some .directory := by
    have split := List.dropLast_append_getLast (ne_nil_of_entry free)
    rw [← split, List.prefix_concat_iff, split] at start
    rw [List.nil_append, entry_put_of_ne ne]
    exact directories_makeDirectories directories ns (start.resolve_left ne)
  have found : (made.put place (.file text)).find path = .ok (.file text) := by
    rw [find, sound]
    dsimp only
    rw [same, descend_eq way last]
    change (if endsInSlash path then Except.error FileFault.notDirectory else .ok (Entry.file text)) = _
    rw [if_neg slash]
  rw [content?, found]

/-! ## Requests -/

/-- Does with files all that a procedure asks for. -/
def carry {α : Type} (p : Filing α) (fs : Files) : Except Failure α × Files := (p.run answer).run fs

/-- A procedure goes on with the value of its first part, on the files as that left them. -/
lemma carry_bind {α β : Type} (p : Filing α) (f : α → Filing β) : carry (p >>= f) fs =
    match carry p fs with
    | (.ok a, gs) => carry (f a) gs
    | (.error failure, gs) => (.error failure, gs) := by
  induction p generalizing fs with
  | done result =>
    cases result with
    | ok => rfl
    | error => rfl
  | ask request next ih => exact ih _

/-- What comes of writing a text into a file. -/
lemma carry_save {path text : String} : carry (save path text) fs =
    match fs.write path text with
    | .ok gs => (.ok (), gs)
    | .error fault => (.error (.file fault), fs) := by
  change (match fs.write path text with
    | .ok gs => fun _ => (.ok (), gs)
    | .error fault => fun fs => (.error (.file fault), fs) : Files → Except Failure Unit × Files) fs = _
  cases fs.write path text with
  | ok => rfl
  | error => rfl

/-- What comes of asking for the text of a file. -/
lemma carry_load {path : String} : carry (load path) fs = ((fs.content? path).mapError .file, fs) := rfl

end Tenancy.Files
