import Tenancy.Proofs.Descriptor.Forms

/-!
# What the environment fills in

A descriptor need not set all parts of an address; the environment gives the others. `Draft.complete_eq_ok` says
which addresses a draft and an environment make, and `Address.read_eq_ok` which a text does. Only the variables
of the parts that a text leaves open are asked for (`Address.read_congr`), and what it sets stands
(`Address.read_fills`).
-/

namespace Tenancy
open Text

/-- The value that an environment gives a variable; a variable set to nothing has none. -/
def Environment.given? (env : Environment) (name : String) : Option String := (env name).filter (· ≠ "")

/-- The number of a port that an environment gives, the usual one where it gives none. -/
inductive Environment.GivesPort (env : Environment) : Nat → Prop where
  | standard (absent : env.given? "PGPORT" = none) : env.GivesPort Address.standardPort
  | number {text : String} {n : Nat} (given : env.given? "PGPORT" = some text) (port : IsPort text n) :
    env.GivesPort n

namespace Draft

/-- Whether an address is what a draft sets and, where it sets nothing, what an environment gives. -/
structure Fills (d : Draft) (env : Environment) (a : Address) : Prop where
  host : a.host = (d.host <|> env.given? "PGHOST").getD Address.standardHost
  port : d.port = some a.port ∨ d.port = none ∧ env.GivesPort a.port
  database : (d.database <|> env.given? "PGDATABASE") = some a.database
  user : (d.user <|> env.given? "PGUSER") = some a.user
  password : a.password = (d.password <|> env.given? "PGPASSWORD")
  options : a.options = d.options

/-- Whether two environments give the same for each part that a draft does not set. -/
structure Alike (d : Draft) (env env' : Environment) : Prop where
  host : d.host = none → env.given? "PGHOST" = env'.given? "PGHOST"
  port : d.port = none → env.given? "PGPORT" = env'.given? "PGPORT"
  database : d.database = none → env.given? "PGDATABASE" = env'.given? "PGDATABASE"
  user : d.user = none → env.given? "PGUSER" = env'.given? "PGUSER"
  password : d.password = none → env.given? "PGPASSWORD" = env'.given? "PGPASSWORD"

/-- Whether all that a draft sets stands in an address. -/
structure Stands (d : Draft) (a : Address) : Prop where
  host : ∀ host, d.host = some host → a.host = host
  port : ∀ port, d.port = some port → a.port = port
  database : ∀ database, d.database = some database → a.database = database
  user : ∀ user, d.user = some user → a.user = user
  password : ∀ password, d.password = some password → a.password = some password
  options : a.options = d.options

/-- The port of a draft, or the one of a variable. -/
def portOr (d : Draft) (value : Option String) : Except DescriptorFault Nat :=
  match d.port, value with
  | some port, _ => .ok port
  | none, none => .ok Address.standardPort
  | none, some text =>
    match readNatural? maxWord16 text.toList with
    | some port => .ok port
    | none => .error (.environmentPort text)

variable {d : Draft} {form : DescriptorForm} {env env' : Environment} {a : Address} {cs : List Char}

/-- The address with a port, by what is said or given of the other parts. -/
def around (d : Draft) (form : DescriptorForm) (host database user password : Option String) (port : Nat) :
    Except DescriptorFault Address :=
  match database with
  | some database =>
    match user with
    | some user =>
      .ok { host := host.getD Address.standardHost, port, database, user, password, options := d.options, form }
    | _ => .error .noUser
  | _ => .error .noDatabase

/-- The address of a draft asks an environment for five values. -/
lemma complete_eq :
    d.complete form env = (d.portOr (env.given? "PGPORT")).bind
      (d.around form (d.host <|> env.given? "PGHOST") (d.database <|> env.given? "PGDATABASE")
        (d.user <|> env.given? "PGUSER") (d.password <|> env.given? "PGPASSWORD")) := by
  unfold complete portOr
  change (match d.port, env.given? "PGPORT" with | some _, _ => _ | none, none => _ | none, some _ => _) = _
  cases d.port with
  | some port => rfl
  | none =>
    cases env.given? "PGPORT" with
    | none => rfl
    | some text =>
      dsimp only
      cases readNatural? maxWord16 text.toList with
      | some port => rfl
      | none => rfl

/-- The port is the descriptor's, or else the environment's. -/
lemma portOr_eq_ok {n : Nat} :
    d.portOr (env.given? "PGPORT") = .ok n ↔ d.port = some n ∨ d.port = none ∧ env.GivesPort n := by
  unfold portOr
  cases d.port with
  | some port =>
    constructor
    · rintro ⟨⟩
      exact .inl rfl
    · rintro (⟨⟨⟩⟩ | ⟨⟨⟩, -⟩)
      rfl
  | none =>
    constructor
    · intro read
      refine .inr ⟨rfl, ?_⟩
      cases given : env.given? "PGPORT" with
      | none =>
        rw [given] at read
        cases read
        exact .standard given
      | some text =>
        rw [given] at read
        dsimp only at read
        split at read
        · next found =>
          cases read
          exact .number given (isPort_iff.1 found)
        · cases read
    · rintro (⟨⟨⟩⟩ | ⟨-, gives⟩)
      cases gives with
      | standard absent => rw [absent]
      | number given port =>
        rw [given]
        dsimp only
        rw [isPort_iff.2 port]

/-- What is put together is accepted with a database and a user, and nothing else is asked of it. -/
lemma around_eq_ok {host database user password : Option String} {port : Nat} :
    d.around form host database user password port = .ok a ↔
      a.host = host.getD Address.standardHost ∧ a.port = port ∧ database = some a.database ∧
        user = some a.user ∧ a.password = password ∧ a.options = d.options ∧ a.form = form := by
  unfold around
  cases database with
  | none => simp
  | some database =>
    cases user with
    | none => simp
    | some user =>
      obtain ⟨h, p, db, u, pw, os, f⟩ := a
      simp only [Except.ok.injEq, Address.mk.injEq, Option.some.injEq]
      constructor
      · rintro ⟨rfl, rfl, rfl, rfl, rfl, rfl, rfl⟩
        exact ⟨rfl, rfl, rfl, rfl, rfl, rfl, rfl⟩
      · rintro ⟨rfl, rfl, rfl, rfl, rfl, rfl, rfl⟩
        exact ⟨rfl, rfl, rfl, rfl, rfl, rfl, rfl⟩

/-- A draft and an environment make the addresses that the one sets and the other fills. -/
lemma complete_eq_ok : d.complete form env = .ok a ↔ d.Fills env a ∧ a.form = form := by
  rw [complete_eq]
  constructor
  · intro made
    cases read : d.portOr (env.given? "PGPORT") with
    | error fault =>
      rw [read] at made
      cases made
    | ok n =>
      rw [read] at made
      obtain ⟨host, rfl, database, user, password, options, rfl⟩ := around_eq_ok.1 made
      exact ⟨⟨host, portOr_eq_ok.1 read, database, user, password, options⟩, rfl⟩
  · rintro ⟨fills, rfl⟩
    rw [portOr_eq_ok.2 fills.port]
    exact around_eq_ok.2
      ⟨fills.host, rfl, fills.database, fills.user, fills.password, fills.options, rfl⟩

/-- What is set need not be asked for. -/
lemma orElse_congr {α : Type} {x y y' : Option α} (same : x = none → y = y') : (x <|> y) = (x <|> y') := by
  cases x with
  | none => exact same rfl
  | some _ => rfl

/-- Only the variables of the parts that are not set are asked for. -/
lemma complete_congr (alike : d.Alike env env') : d.complete form env = d.complete form env' := by
  have port : d.portOr (env.given? "PGPORT") = d.portOr (env'.given? "PGPORT") := by
    cases set : d.port with
    | some port => simp only [portOr, set]
    | none => rw [alike.port set]
  rw [complete_eq, complete_eq, port, orElse_congr alike.host, orElse_congr alike.database,
    orElse_congr alike.user, orElse_congr alike.password]

/-- What a draft sets stands in the addresses that it makes. -/
lemma Fills.stands (fills : d.Fills env a) : d.Stands a where
  host host set := by rw [fills.host, set]; rfl
  port port set := by
    obtain sets | ⟨unset, -⟩ := fills.port
    · exact Option.some.inj (sets.symm.trans set)
    · rw [unset] at set
      cases set
  database database set := by
    have given := fills.database
    rw [set] at given
    exact (Option.some.inj given).symm
  user user set := by
    have given := fills.user
    rw [set] at given
    exact (Option.some.inj given).symm
  password password set := by rw [fills.password, set]; rfl
  options := fills.options

end Draft

/-! ## No empty names -/

/-- A variable that is empty is not given. -/
lemma Environment.given?_ne {env : Environment} {name : String} : env.given? name ≠ some "" := by
  intro given
  have other := (Option.filter_eq_some_iff.1 given).2
  exact absurd rfl (of_decide_eq_true other)

/-- Nor is a part that is empty. -/
lemma Draft.nonempty?_ne {s : String} : Draft.nonempty? s ≠ some "" := by
  rw [Draft.nonempty?]
  split
  · exact nofun
  · next some =>
    intro eq
    exact some (Option.some.inj eq)

/-- No descriptor sets the name of the database or of the user to nothing. -/
lemma Says.ne {cs : List Char} {form : DescriptorForm} {d : Draft} (said : Says cs form d) :
    d.database ≠ some "" ∧ d.user ≠ some "" := by
  cases said with
  | url => exact ⟨Draft.nonempty?_ne, Draft.nonempty?_ne⟩
  | fields => exact ⟨Draft.nonempty?_ne, nofun⟩
  | bare name =>
    refine ⟨?_, nofun⟩
    intro eq
    exact name.some (String.ofList_eq_empty_iff.1 (Option.some.inj eq))

/-- So of two parts none is empty that counts. -/
lemma ne_of_orElse {x y : Option String} {s : String} (x_ne : x ≠ some "") (y_ne : y ≠ some "")
    (given : (x <|> y) = some s) : s ≠ "" := by
  rintro rfl
  cases x with
  | none => exact y_ne given
  | some _ => exact x_ne given

/-! ## Reading -/

namespace Address
variable {text : String} {env env' : Environment} {a : Address}

/-- A text is read, what it says is completed and the protection that it asks for is looked at. -/
lemma read_eq :
    read text env =
      (((Draft.read text).bind fun said => said.2.complete said.1 env).mapError Failure.descriptor).bind
        fun a => a.tlsMode.map fun _ => a := by
  rw [read]
  cases Draft.read text with
  | error fault => rfl
  | ok said =>
    change (said.2.complete said.1 env).mapError Failure.descriptor >>= _ =
      ((said.2.complete said.1 env).mapError Failure.descriptor).bind _
    cases said.2.complete said.1 env with
    | error fault => rfl
    | ok a =>
      change a.tlsMode >>= _ = a.tlsMode.map _
      cases a.tlsMode with
      | error failure => rfl
      | ok mode => rfl

/-- A text is read as an address that completes what it says, if the protection it asks for is known. -/
lemma read_eq_ok :
    read text env = .ok a ↔
      (∃ form d, Says (trim text.toList) form d ∧ d.Fills env a ∧ a.form = form) ∧
        ∃ mode, a.tlsMode = .ok mode := by
  rw [read_eq]
  constructor
  · intro given
    cases said : Draft.read text with
    | error fault =>
      rw [said] at given
      cases given
    | ok pair =>
      obtain ⟨form, d⟩ := pair
      rw [said] at given
      cases made : d.complete form env with
      | error fault =>
        simp only [Except.bind, made, mapError_error] at given
        cases given
      | ok b =>
        simp only [Except.bind, made, mapError_ok] at given
        obtain ⟨mode, known, rfl⟩ := map_eq_ok.1 given
        obtain ⟨fills, eq⟩ := Draft.complete_eq_ok.1 made
        exact ⟨⟨form, d, Draft.read_eq_ok.1 said, fills, eq⟩, mode, known⟩
  · rintro ⟨⟨form, d, said, fills, eq⟩, mode, known⟩
    have made := Draft.complete_eq_ok.2 ⟨fills, eq⟩
    rw [Draft.read_eq_ok.2 said]
    simp only [Except.bind, made, mapError_ok]
    exact map_eq_ok.2 ⟨mode, known, rfl⟩

/-- A mode for encryption that is not known is a fault of the descriptor. -/
lemma fault_of_tlsMode {failure : Failure} (failed : a.tlsMode = .error failure) :
    ∃ fault, failure = .descriptor fault := by
  rw [tlsMode] at failed
  split at failed
  · cases failed
  · split at failed
    · cases failed
    · cases failed
      exact ⟨_, rfl⟩

/-- Whatever is wrong, it is wrong with the descriptor. -/
lemma fault_of_read {failure : Failure} (failed : read text env = .error failure) :
    ∃ fault, failure = .descriptor fault := by
  rw [read_eq] at failed
  cases made : (Draft.read text).bind fun said => said.2.complete said.1 env with
  | error fault =>
    rw [made] at failed
    cases failed
    exact ⟨fault, rfl⟩
  | ok a =>
    rw [made, mapError_ok] at failed
    change a.tlsMode.map _ = _ at failed
    cases known : a.tlsMode with
    | error other =>
      rw [known] at failed
      cases failed
      exact fault_of_tlsMode known
    | ok mode =>
      rw [known] at failed
      cases failed

/-- Environments that are alike where a text sets nothing make the same of it. -/
lemma read_congr (alike : ∀ form d, Says (trim text.toList) form d → d.Alike env env') :
    read text env = read text env' := by
  rw [read_eq, read_eq]
  cases said : Draft.read text with
  | error fault => rfl
  | ok pair =>
    obtain ⟨form, d⟩ := pair
    simp only [Except.bind]
    rw [Draft.complete_congr (alike form d (Draft.read_eq_ok.1 said))]

/-- The environment only fills gaps. Two environments that give the same for the parts which a text leaves open
make the same of it, be it an address or a fault. In an address that comes of a text all that the text sets
stands, the rest is what the environment gives, and the database and the user are named. -/
theorem read_fills (text : String) (env : Environment) :
    (∀ env', (∀ form d, Says (trim text.toList) form d → d.Alike env env') →
      read text env = read text env') ∧
    ∀ a, read text env = .ok a →
      (∃ form d, Says (trim text.toList) form d ∧ a.form = form ∧ d.Stands a ∧ d.Fills env a) ∧
        a.database ≠ "" ∧ a.user ≠ "" := by
  refine ⟨fun env' alike => read_congr alike, ?_⟩
  intro a given
  obtain ⟨⟨form, d, said, fills, eq⟩, -⟩ := read_eq_ok.1 given
  refine ⟨⟨form, d, said, eq, fills.stands, fills⟩, ?_, ?_⟩
  · exact ne_of_orElse said.ne.1 Environment.given?_ne fills.database
  · exact ne_of_orElse said.ne.2 Environment.given?_ne fills.user

/-- A URL that leaves the port and the password open: they are what the environment gives, whatever it gives
for the parts that the URL sets. -/
theorem read_fills_url :
    let url := "postgresql://bob@h/db"
    let env : Environment := fun name =>
      if name = "PGPORT" then some "6543" else if name = "PGPASSWORD" then some "s3" else none
    let env' : Environment := fun name =>
      if name = "PGHOST" ∨ name = "PGUSER" then some "other" else env name
    let a : Address := ⟨"h", 6543, "db", "bob", some "s3", [], .url⟩
    (∀ form d, Says (trim url.toList) form d → d.Alike env env') ∧
      read url env = .ok a ∧ read url env' = .ok a ∧
      (∃ form d, Says (trim url.toList) form d ∧ a.form = form ∧ d.Stands a ∧ d.Fills env a) ∧
        a.database ≠ "" ∧ a.user ≠ "" := by
  intro url env env' a
  have said : Draft.read url = .ok (.url, { host := "h", database := "db", user := "bob" }) := by
    decide +kernel
  have alike : ∀ form d, Says (trim url.toList) form d → d.Alike env env' := by
    intro form d says'
    have eq := Draft.read_eq_ok.2 says'
    rw [said] at eq
    cases eq
    exact ⟨nofun, fun _ => rfl, nofun, nofun, fun _ => rfl⟩
  have given : read url env = .ok a := by decide +kernel
  obtain ⟨same, filled⟩ := read_fills url env
  exact ⟨alike, given, (same env' alike).symm.trans given, filled a given⟩

end Address
end Tenancy
