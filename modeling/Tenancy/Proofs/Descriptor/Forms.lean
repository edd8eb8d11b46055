import Tenancy.Descriptor
import Tenancy.Proofs.Connection.Outcome
import Tenancy.Proofs.Text.Numerals
import Tenancy.Proofs.Text.Parts

/-!
# What descriptors say

A descriptor is of one of three forms, told by its marks: `Says` relates a text without white space around it
to its form and to the parts of an address that it sets. Reading gives exactly what the text says
(`Draft.read_eq_ok`, from `Draft.ofUrl_eq_ok` and `Draft.ofFields_eq_ok`).
-/

namespace Tenancy
open Text

/-- Whether a text is the number of a port. -/
def IsPort (text : String) (n : Nat) : Prop := Natural text.toList n ∧ n ≤ maxWord16

/-- Whether a text is four fields with colons between them. -/
structure Fields (cs : List Char) (host port database schema : String) : Prop where
  joined : cs = host.toList ++ ':' :: (port.toList ++ ':' :: (database.toList ++ ':' :: schema.toList))
  clear : ∀ field ∈ [host, port, database, schema], ':' ∉ field.toList

/-- Whether a text can be the name of a database alone. -/
structure BareName (cs : List Char) : Prop where
  some : cs ≠ []
  clear : ∀ c ∈ cs, isBlank c = false ∧ c ∉ [':', '/', '@', '=', '?']

/-- What a field for a port sets: an empty one sets nothing. -/
inductive PortField : String → Option Nat → Prop where
  | empty : PortField "" none
  | number {text : String} {n : Nat} (port : IsPort text n) : PortField text (some n)

namespace Draft

/-- What the parts of a URL say. -/
def ofParts (url : Url) : Draft where
  host := url.host.bind nonempty?
  port := url.port
  database := nonempty? (Url.decoded (url.path.dropWhile (· = '/')))
  user := nonempty? (Url.decoded url.user)
  password := url.password.map Url.decoded
  options := .ofPairs url.queryPairs

/-- What four fields say. -/
def ofFour (host : String) (port : Option Nat) (database schema : String) : Draft where
  host := nonempty? host
  port := port
  database := nonempty? database
  options := if schema = "" then [] else [("schema", schema)]

/-- What a field for a port sets, or why it cannot be read. -/
def readPort (text : String) : Except DescriptorFault (Option Nat) :=
  if text = "" then pure none
  else match readNatural? maxWord16 text.toList with
    | some n => pure (some n)
    | none => throw (.portNumber text)

end Draft

/-- What a text says, by its form. A text with the mark of a URL in it is of no other form, and one with a colon
is no name. -/
inductive Says : List Char → DescriptorForm → Draft → Prop where
  | url {cs : List Char} {url : Url} (mark : "://".toList <:+: cs)
    (parts : Url.read (String.ofList cs) = .ok url) (single : '/' ∉ url.path.dropWhile (· = '/')) :
    Says cs .url (.ofParts url)
  | fields {cs : List Char} {host port database schema : String} {n : Option Nat}
    (unmarked : ¬ "://".toList <:+: cs) (four : Fields cs host port database schema)
    (number : PortField port n) :
    Says cs .fields (.ofFour host n database schema)
  | bare {cs : List Char} (name : BareName cs) : Says cs .bare { database := String.ofList cs }

/-! ## Fields and names -/

/-- A port is read from its numeral. -/
lemma isPort_iff {text : String} {n : Nat} : readNatural? maxWord16 text.toList = some n ↔ IsPort text n :=
  readNatural?_eq_some

/-- A text is cut at its colons into four stretches exactly if these have none in them and make the text. -/
lemma splitOn_eq_four {cs host port database schema : List Char} :
    cs.splitOn ':' = [host, port, database, schema] ↔
      cs = host ++ ':' :: (port ++ ':' :: (database ++ ':' :: schema)) ∧
        ∀ field ∈ [host, port, database, schema], ':' ∉ field := by
  have joined : [':'].intercalate [host, port, database, schema] =
      host ++ ':' :: (port ++ ':' :: (database ++ ':' :: schema)) := by
    simp [List.intercalate]
  rw [splitOn_eq_iff (List.cons_ne_nil _ _), joined]

/-- The stretches between colons are four exactly if the text is four fields. -/
lemma fields_iff {cs : List Char} {host port database schema : String} :
    (cs.splitOn ':').map String.ofList = [host, port, database, schema] ↔
      Fields cs host port database schema := by
  constructor
  · intro eq
    have split := congrArg (List.map String.toList) eq
    rw [List.map_map, String.toList_comp_ofList, List.map_id] at split
    obtain ⟨joined, clear⟩ := splitOn_eq_four.1 split
    exact ⟨joined, by simpa using clear⟩
  · intro four
    rw [splitOn_eq_four.2 ⟨four.joined, by simpa using four.clear⟩]
    simp only [List.map_cons, List.map_nil, String.ofList_toList]

/-- Four fields have colons between them. -/
lemma Fields.mem {cs : List Char} {host port database schema : String}
    (four : Fields cs host port database schema) : ':' ∈ cs := by
  rw [four.joined]
  exact List.mem_append_right _ List.mem_cons_self

/-- A bare name is recognised. -/
lemma bareName_iff {cs : List Char} : Draft.isBareName cs ↔ BareName cs := by
  rw [Draft.isBareName, Bool.and_eq_true, decide_eq_true_iff, Bool.not_eq_true', List.any_eq_false]
  simp only [Bool.or_eq_true, decide_eq_true_iff, not_or, Bool.not_eq_true]
  constructor
  · rintro ⟨some, clear⟩
    exact ⟨some, clear⟩
  · rintro ⟨some, clear⟩
    exact ⟨some, clear⟩

/-- It has no colon. -/
lemma BareName.not_mem {cs : List Char} (name : BareName cs) : ':' ∉ cs := by
  intro mem
  exact (name.clear ':' mem).2 List.mem_cons_self

/-- So it has no scheme. -/
lemma BareName.unmarked {cs : List Char} (name : BareName cs) : ¬ "://".toList <:+: cs := by
  intro mark
  exact name.not_mem (mark.subset (by decide))

/-! ## Reading -/

/-- What is made of a success comes from a success. -/
lemma map_eq_ok {ε α β : Type} {x : Except ε α} {f : α → β} {b : β} :
    x.map f = .ok b ↔ ∃ a, x = .ok a ∧ f a = b := by
  cases x with
  | error e => simp [Except.map]
  | ok a => simp [Except.map]

namespace Draft
variable {text : String} {d : Draft} {form : DescriptorForm}

/-- A URL says what its parts say, if its path is a single name. -/
lemma ofUrl_eq_ok :
    ofUrl text = .ok d ↔
      ∃ url, Url.read text = .ok url ∧ '/' ∉ url.path.dropWhile (· = '/') ∧ ofParts url = d := by
  rw [ofUrl]
  cases Url.read text with
  | error fault =>
    constructor
    · rintro ⟨⟩
    · rintro ⟨_, ⟨⟩, _⟩
  | ok url =>
    rw [mapError_ok]
    change (if '/' ∈ url.path.dropWhile (· = '/') then
      .error (DescriptorFault.nestedPath (String.ofList url.path)) else .ok (ofParts url)) = Except.ok d ↔ _
    split
    · next nested =>
      constructor
      · rintro ⟨⟩
      · rintro ⟨_, ⟨⟩, single, _⟩
        exact absurd nested single
    · next single =>
      constructor
      · rintro ⟨⟩
        exact ⟨url, rfl, single, rfl⟩
      · rintro ⟨_, ⟨⟩, -, rfl⟩
        rfl

/-- A port that is given is read, and one that is not is left out. -/
lemma readPort_eq_ok {n : Option Nat} : readPort text = .ok n ↔ PortField text n := by
  rw [readPort]
  constructor
  · intro read
    split at read
    · next empty =>
      subst empty
      cases read
      exact .empty
    · split at read
      · next m found =>
        cases read
        exact .number (isPort_iff.1 found)
      · cases read
  · intro sets
    cases sets with
    | empty => rfl
    | number port =>
      have given : text ≠ "" := by
        rintro rfl
        cases isPort_iff.2 port
      rw [if_neg given, isPort_iff.2 port]
      rfl

/-- Four fields are read one by one. -/
lemma ofFields_of_four {cs : List Char} {host port database schema : String}
    (four : Fields cs host port database schema) :
    ofFields (String.ofList cs) = (readPort port).map (ofFour host · database schema) := by
  rw [ofFields, String.toList_ofList, fields_iff.2 four]
  by_cases empty : port = ""
  · subst empty
    rfl
  · rw [readPort, if_neg empty]
    dsimp only
    rw [if_neg empty]
    cases readNatural? maxWord16 port.toList with
    | none => rfl
    | some n => rfl

/-- Four fields say what they are, if the second is empty or a port. -/
lemma ofFields_eq_ok {cs : List Char} :
    ofFields (String.ofList cs) = .ok d ↔ ∃ host port database schema n,
      Fields cs host port database schema ∧ PortField port n ∧ ofFour host n database schema = d := by
  constructor
  · intro read
    have four : ∃ host port database schema, Fields cs host port database schema := by
      rw [ofFields, String.toList_ofList] at read
      dsimp only at read
      split at read
      · next eq => exact ⟨_, _, _, _, fields_iff.1 eq⟩
      · cases read
    obtain ⟨host, port, database, schema, four⟩ := four
    rw [ofFields_of_four four] at read
    cases number : readPort port with
    | error fault =>
      rw [number] at read
      cases read
    | ok n =>
      rw [number] at read
      cases read
      exact ⟨host, port, database, schema, n, four, readPort_eq_ok.1 number, rfl⟩
  · rintro ⟨host, port, database, schema, n, four, number, rfl⟩
    rw [ofFields_of_four four, readPort_eq_ok.2 number]
    rfl

/-- Reading gives what the text says. -/
theorem read_eq_ok : read text = .ok (form, d) ↔ Says (trim text.toList) form d := by
  rw [read]
  constructor
  · intro given
    split at given
    · next mark =>
      obtain ⟨draft, read, ⟨⟩⟩ := map_eq_ok.1 given
      obtain ⟨url, parts, single, rfl⟩ := ofUrl_eq_ok.1 read
      exact .url (standsIn_iff.1 mark) parts single
    · next unmarked =>
      rw [standsIn_iff] at unmarked
      split at given
      · obtain ⟨draft, read, ⟨⟩⟩ := map_eq_ok.1 given
        obtain ⟨host, port, database, schema, n, four, number, rfl⟩ := ofFields_eq_ok.1 read
        exact .fields unmarked four number
      · split at given
        · next name =>
          cases given
          exact .bare (bareName_iff.1 name)
        · cases given
  · intro said
    cases said with
    | url mark parts single =>
      rw [if_pos (standsIn_iff.2 mark), ofUrl_eq_ok.2 ⟨_, parts, single, rfl⟩]
      rfl
    | fields unmarked four number =>
      rw [if_neg (mt standsIn_iff.1 unmarked), if_pos four.mem,
        ofFields_eq_ok.2 ⟨_, _, _, _, _, four, number, rfl⟩]
      rfl
    | bare name =>
      rw [if_neg (mt standsIn_iff.1 name.unmarked), if_neg name.not_mem, if_pos (bareName_iff.2 name)]

end Draft
end Tenancy
