import Tenancy.Proofs.Descriptor.Overlay

/-!
# Which descriptors are accepted

A text without the mark of a URL is four fields or a name (`says_of_unmarked`), and an address comes of what it
says if the environment gives what is missing (`Draft.exists_fills`). Neither form can ask for a kind of
protection, so nothing else is looked at (`Address.tlsMode_of_options`). Together they say which of these texts
are read and as which addresses (`Address.read_unmarked`).
-/

namespace Tenancy
open Text

/-- Without the mark of a URL a text is four fields or a name. -/
lemma says_of_unmarked {cs : List Char} (unmarked : ¬ "://".toList <:+: cs) {form : DescriptorForm} {d : Draft} :
    Says cs form d ↔
      (∃ host port database schema n, Fields cs host port database schema ∧ PortField port n ∧
        form = .fields ∧ d = .ofFour host n database schema) ∨
      BareName cs ∧ form = .bare ∧ d = { database := String.ofList cs } := by
  constructor
  · intro said
    cases said with
    | url mark => exact absurd mark unmarked
    | fields _ four number => exact .inl ⟨_, _, _, _, _, four, number, rfl, rfl⟩
    | bare name => exact .inr ⟨name, rfl, rfl⟩
  · rintro (⟨host, port, database, schema, n, four, number, rfl, rfl⟩ | ⟨name, rfl, rfl⟩)
    · exact .fields unmarked four number
    · exact .bare name

/-- A field sets a port exactly if it is one, and an empty one leaves it open. -/
lemma portField_iff {port : String} {n : Option Nat} :
    PortField port n ↔ port = "" ∧ n = none ∨ ∃ m, n = some m ∧ IsPort port m := by
  constructor
  · intro sets
    cases sets with
    | empty => exact .inl ⟨rfl, rfl⟩
    | number port => exact .inr ⟨_, rfl, port⟩
  · rintro (⟨rfl, rfl⟩ | ⟨m, rfl, port⟩)
    · exact .empty
    · exact .number port

namespace Draft
variable {d : Draft} {env : Environment} {a : Address}

/-- A part counts unless it is empty. -/
lemma nonempty?_orElse {s : String} {x : Option String} :
    (nonempty? s <|> x) = if s = "" then x else some s := by
  rw [nonempty?]
  split
  · rfl
  · rfl

/-- Something is given if the part is not empty, or if there is another. -/
lemma isSome_nonempty?_orElse {s : String} {x : Option String} :
    (nonempty? s <|> x).isSome ↔ s ≠ "" ∨ x.isSome := by
  rw [nonempty?_orElse]
  split
  · next empty => simp [empty]
  · next some => simp [some]

/-- A draft can be completed if its port, its database and its user are set or given. -/
lemma exists_fills {form : DescriptorForm} :
    (∃ a, d.Fills env a ∧ a.form = form) ↔
      (∃ n, d.port = some n ∨ d.port = none ∧ env.GivesPort n) ∧
        (d.database <|> env.given? "PGDATABASE").isSome ∧ (d.user <|> env.given? "PGUSER").isSome := by
  constructor
  · rintro ⟨a, fills, -⟩
    rw [fills.database, fills.user]
    exact ⟨⟨a.port, fills.port⟩, rfl, rfl⟩
  · rintro ⟨⟨n, port⟩, database, user⟩
    obtain ⟨database, named⟩ := Option.isSome_iff_exists.1 database
    obtain ⟨user, known⟩ := Option.isSome_iff_exists.1 user
    exact ⟨⟨_, n, database, user, _, _, form⟩, ⟨rfl, port, named, known, rfl, rfl⟩, rfl⟩

/-- The addresses of four fields: what is not empty as it stands, the rest as it is given. -/
lemma fills_ofFour {host database schema : String} {n : Option Nat} :
    (ofFour host n database schema).Fills env a ↔
      a.host = (if host = "" then env.given? "PGHOST" else some host).getD Address.standardHost ∧
      (n = some a.port ∨ n = none ∧ env.GivesPort a.port) ∧
      (if database = "" then env.given? "PGDATABASE" else some database) = some a.database ∧
      env.given? "PGUSER" = some a.user ∧ a.password = env.given? "PGPASSWORD" ∧
      a.options = if schema = "" then [] else [("schema", schema)] := by
  rw [← nonempty?_orElse, ← nonempty?_orElse]
  constructor
  · rintro ⟨host, port, database, user, password, options⟩
    exact ⟨host, port, database, user, password, options⟩
  · rintro ⟨host, port, database, user, password, options⟩
    exact ⟨host, port, database, user, password, options⟩

end Draft

namespace Address
variable {text : String} {env : Environment} {a : Address}

/-- An address that asks for no kind of protection gets the usual one. -/
lemma tlsMode_of_options (none : a.options.get? "sslmode" = none) : a.tlsMode = .ok .standard := by
  rw [tlsMode, option?, none]

/-- A text without a scheme has none without its blanks. -/
lemma unmarked_trim (unmarked : ¬ "://".toList <:+: text.toList) : ¬ "://".toList <:+: trim text.toList :=
  fun mark => unmarked (mark.trans (isInfix_trim _))

/-- Neither fields nor a name ask for a kind of protection. -/
lemma read_eq_ok_of_unmarked (unmarked : ¬ "://".toList <:+: text.toList) :
    read text env = .ok a ↔ ∃ form d, Says (trim text.toList) form d ∧ d.Fills env a ∧ a.form = form := by
  rw [read_eq_ok, and_iff_left_iff_imp]
  rintro ⟨form, d, said, fills, -⟩
  refine ⟨_, tlsMode_of_options ?_⟩
  rw [fills.options]
  obtain ⟨host, port, database, schema, n, -, -, -, rfl⟩ | ⟨-, -, rfl⟩ :=
    (says_of_unmarked (unmarked_trim unmarked)).1 said
  · rw [Draft.ofFour]
    split
    · rfl
    · rfl
  · rfl

/-- What is said has to be of a form, and its gaps have to be filled. -/
lemma exists_read (unmarked : ¬ "://".toList <:+: text.toList) :
    (∃ a, read text env = .ok a) ↔ ∃ form d, Says (trim text.toList) form d ∧
      (∃ n, d.port = some n ∨ d.port = none ∧ env.GivesPort n) ∧
      (d.database <|> env.given? "PGDATABASE").isSome ∧ (d.user <|> env.given? "PGUSER").isSome := by
  constructor
  · rintro ⟨a, given⟩
    obtain ⟨form, d, said, filled⟩ := (read_eq_ok_of_unmarked unmarked).1 given
    exact ⟨form, d, said, Draft.exists_fills.1 ⟨a, filled⟩⟩
  · rintro ⟨form, d, said, filled⟩
    obtain ⟨a, fills⟩ := Draft.exists_fills.2 filled
    exact ⟨a, (read_eq_ok_of_unmarked unmarked).2 ⟨form, d, said, fills⟩⟩

/-- Without the mark of a URL a text is read exactly if it is four fields, the second of them a port or empty, or
a name, and the environment gives the user and what else is missing. Then the address has the fields or the name
as they stand and the rest as it is given. Otherwise the fault is one of the descriptor. -/
theorem read_unmarked (unmarked : ¬ "://".toList <:+: text.toList) (env : Environment) :
    ((∃ a, read text env = .ok a) ↔
      (∃ host port database schema, Fields (trim text.toList) host port database schema ∧
        (port = "" ∧ (∃ n, env.GivesPort n) ∨ ∃ n, IsPort port n) ∧
        (database ≠ "" ∨ (env.given? "PGDATABASE").isSome) ∧ (env.given? "PGUSER").isSome) ∨
      BareName (trim text.toList) ∧ (∃ n, env.GivesPort n) ∧ (env.given? "PGUSER").isSome) ∧
    (∀ a, read text env = .ok a →
      env.given? "PGUSER" = some a.user ∧ a.password = env.given? "PGPASSWORD" ∧
      ((∃ host port database schema, Fields (trim text.toList) host port database schema ∧
          a.form = .fields ∧
          a.host = (if host = "" then env.given? "PGHOST" else some host).getD standardHost ∧
          (port = "" ∧ env.GivesPort a.port ∨ IsPort port a.port) ∧
          (if database = "" then env.given? "PGDATABASE" else some database) = some a.database ∧
          a.options = if schema = "" then [] else [("schema", schema)]) ∨
        BareName (trim text.toList) ∧ a.form = .bare ∧
          a.host = (env.given? "PGHOST").getD standardHost ∧ env.GivesPort a.port ∧
          a.database = String.ofList (trim text.toList) ∧ a.options = [])) ∧
    ∀ failure, read text env = .error failure → ∃ fault, failure = .descriptor fault := by
  refine ⟨?_, ?_, fun _ => fault_of_read⟩
  · rw [exists_read unmarked]
    constructor
    · rintro ⟨form, d, said, port, database, user⟩
      obtain ⟨host, field, name, schema, n, four, number, -, rfl⟩ | ⟨name, -, rfl⟩ :=
        (says_of_unmarked (unmarked_trim unmarked)).1 said
      · left
        refine ⟨host, field, name, schema, four, ?_, Draft.isSome_nonempty?_orElse.1 database, user⟩
        obtain ⟨rfl, rfl⟩ | ⟨m, rfl, numbered⟩ := portField_iff.1 number
        · obtain ⟨n, ⟨⟨⟩⟩ | ⟨-, gives⟩⟩ := port
          exact .inl ⟨rfl, n, gives⟩
        · exact .inr ⟨m, numbered⟩
      · obtain ⟨n, ⟨⟨⟩⟩ | ⟨-, gives⟩⟩ := port
        exact .inr ⟨name, ⟨n, gives⟩, user⟩
    · rintro (⟨host, field, name, schema, four, port, database, user⟩ | ⟨name, ⟨n, gives⟩, user⟩)
      · rw [← Draft.isSome_nonempty?_orElse] at database
        obtain ⟨rfl, n, gives⟩ | ⟨n, port⟩ := port
        · exact ⟨_, _, .fields (unmarked_trim unmarked) four .empty, ⟨n, .inr ⟨rfl, gives⟩⟩, database, user⟩
        · exact ⟨_, _, .fields (unmarked_trim unmarked) four (.number port), ⟨n, .inl rfl⟩, database, user⟩
      · exact ⟨_, _, .bare name, ⟨n, .inr ⟨rfl, gives⟩⟩, rfl, user⟩
  · intro a given
    obtain ⟨form, d, said, fills, rfl⟩ := (read_eq_ok_of_unmarked unmarked).1 given
    obtain ⟨host, field, name, schema, n, four, number, form, rfl⟩ | ⟨name, form, rfl⟩ :=
      (says_of_unmarked (unmarked_trim unmarked)).1 said
    · obtain ⟨host, sets, database, user, password, options⟩ := Draft.fills_ofFour.1 fills
      refine ⟨user, password, .inl ⟨_, field, _, _, four, form, host, ?_, database, options⟩⟩
      obtain ⟨rfl, rfl⟩ | ⟨m, rfl, numbered⟩ := portField_iff.1 number
      · obtain ⟨⟨⟩⟩ | ⟨-, gives⟩ := sets
        exact .inl ⟨rfl, gives⟩
      · obtain ⟨⟨⟩⟩ | ⟨⟨⟩, -⟩ := sets
        exact .inr numbered
    · obtain ⟨⟨⟩⟩ | ⟨-, gives⟩ := fills.port
      exact ⟨fills.user, fills.password,
        .inr ⟨name, form, fills.host, gives, (Option.some.inj fills.database).symm, fills.options⟩⟩

/-- Two fields are empty: the environment gives the port, with a sign, and the database. -/
theorem read_unmarked_fields :
    ¬ "://".toList <:+: " db.example:::tenants".toList ∧
    ∃ a, read " db.example:::tenants" (fun name => if name = "PGPORT" then some "+6543" else some "x") = .ok a ∧
      a.user = "x" ∧ a.password = some "x" := by
  have unmarked : ¬ "://".toList <:+: " db.example:::tenants".toList := by
    rw [← standsIn_iff]
    decide +kernel
  have reads := read_unmarked unmarked fun name => if name = "PGPORT" then some "+6543" else some "x"
  have four : Fields (trim " db.example:::tenants".toList) "db.example" "" "" "tenants" :=
    fields_iff.1 (by decide +kernel)
  have port : IsPort "+6543" 6543 := isPort_iff.1 (by decide +kernel)
  obtain ⟨a, read⟩ := reads.1.2 (.inl ⟨_, _, _, _, four, .inl ⟨rfl, _, .number rfl port⟩, .inr rfl, rfl⟩)
  obtain ⟨user, password, -⟩ := reads.2.1 a read
  exact ⟨unmarked, a, read, (Option.some.inj user).symm, password⟩

end Address
end Tenancy
