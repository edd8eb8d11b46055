/-!
# The command line

What is asked of the program. A line is read argument by argument: options of the program stand
anywhere, before the command or after it, and what stands after it counts; options of a command and its
operands stand after it, in any order. A value stands in the next argument or in that of its option,
after an equals sign; it may begin with a dash only there. After two dashes everything is an operand.
-/

namespace Tenancy

/-- What the program is to do. -/
inductive Command where
  /-- Show a legacy statement in the server's dialect. -/
  | translate (sql : String)
  /-- Show the prefix that a tenant has or would have. -/
  | showPrefix (tenant : String)
  /-- Enter a tenant into the registry. -/
  | register (tenant : String)
  /-- Create or upgrade the schema. -/
  | ensureSchema (tenant : Option String)
  /-- Show the version of the schema. -/
  | schemaVersion (tenant : Option String)
  /-- Run a statement and show what it gives. -/
  | query (sql : String) (tenant : Option String)
  deriving DecidableEq, Repr

/-- A command and the options of the program. -/
structure Invocation where
  /-- The file with the configuration. -/
  configuration : Option String := none
  descriptor : Option String := none
  command : Command
  deriving DecidableEq, Repr

namespace Line

/-- The options with a value. -/
inductive Switch where
  | configuration
  | descriptor
  | tenant
  deriving DecidableEq, Repr

/-- Why a line is not an invocation. -/
inductive Stop where
  | help
  | version
  | misuse
  deriving DecidableEq, Repr

/-- What was read so far. -/
structure Given where
  configuration : Option String := none
  descriptor : Option String := none
  tenant : Option String := none
  operands : List String := []
  deriving DecidableEq, Repr

/-- What may stand at a place of the line. -/
structure Level where
  /-- Whether the program's version can be asked for. -/
  showsVersion : Bool := false
  /-- Whether there is an option for a tenant. -/
  takesTenant : Bool := false
  /-- How many operands there are. -/
  operands : Nat := 0
  deriving DecidableEq, Repr

/-- An argument by its form. -/
inductive Argument where
  /-- Two dashes. -/
  | escape
  /-- A long option, and a value after an equals sign. -/
  | long (name : String) (value : Option String)
  /-- A short option, and the rest of the argument. -/
  | short (letter : Char) (rest : List Char)
  | plain (text : String)
  deriving DecidableEq, Repr

/-- An argument by its form; a single dash is nothing special. -/
def Argument.ofString (s : String) : Argument :=
  match s.toList with
  | ['-', '-'] => escape
  | '-' :: '-' :: cs =>
    let name := String.ofList (cs.takeWhile (· ≠ '='))
    match cs.dropWhile (· ≠ '=') with
    | [] => long name none
    | _ :: value => long name (some (String.ofList value))
  | '-' :: c :: cs => short c cs
  | _ => plain s

/-- Sets an option, which may be given once. The name of a file may not be empty. -/
def Given.set (g : Given) (value : String) : Switch → Except Stop Given
  | .configuration =>
    if g.configuration.isSome ∨ value = "" then .error .misuse
    else .ok { g with configuration := some value }
  | .descriptor =>
    if g.descriptor.isSome then .error .misuse else .ok { g with descriptor := some value }
  | .tenant => if g.tenant.isSome then .error .misuse else .ok { g with tenant := some value }

/-- The option of a long name. -/
def Level.switch? (l : Level) (name : String) : Option Switch :=
  match name with
  | "config" => some .configuration
  | "descriptor" => some .descriptor
  | "tenant" => if l.takesTenant then some .tenant else none
  | _ => none

/-- What an argument means at a level. -/
inductive Reading where
  | stop (why : Stop)
  | set (switch : Switch) (value : String)
  /-- The value is the next argument. -/
  | needsValue (switch : Switch)
  | plain (text : String)
  | escape

/-- Reads one argument. -/
def Level.read (l : Level) (argument : String) : Reading :=
  match Argument.ofString argument with
  | .escape => .escape
  | .plain text => .plain text
  | .long name value =>
    match l.switch? name, value with
    | some switch, some value => .set switch value
    | some switch, none => .needsValue switch
    | none, none =>
      if name = "help" then .stop .help
      else if name = "version" ∧ l.showsVersion then .stop .version
      else .stop .misuse
    | none, some _ => .stop .misuse
  | .short letter rest =>
    if letter = 'd' then
      match rest with
      | [] => .needsValue .descriptor
      | '=' :: value => .set .descriptor (String.ofList value)
      | value => .set .descriptor (String.ofList value)
    else if letter = 'h' then .stop .help
    else if letter = 'V' ∧ l.showsVersion then .stop .version
    else .stop .misuse

/-- Adds operands, as many as there may be. -/
def Given.addOperands (g : Given) (l : Level) (texts : List String) : Except Stop Given :=
  if l.operands < g.operands.length + texts.length then .error .misuse
  else .ok { g with operands := g.operands ++ texts }

/-- Reads the arguments after a command. -/
def Level.readAll (l : Level) (g : Given) : List String → Except Stop Given
  | [] => .ok g
  | argument :: arguments =>
    match l.read argument with
    | .stop why => .error why
    | .set switch value => do l.readAll (← g.set value switch) arguments
    | .escape => g.addOperands l arguments
    | .plain text => do l.readAll (← g.addOperands l [text]) arguments
    | .needsValue switch =>
      match arguments with
      | [] => .error .misuse
      | value :: arguments =>
        match Argument.ofString value with
        | .plain value => do l.readAll (← g.set value switch) arguments
        | _ => .error .misuse

/-- The commands by their names: what may stand after each, and what the operands make of it. -/
def commands : List (String × Level × (Given → Option Command)) := [
  ("translate", { operands := 1 }, fun g => g.operands.head?.map .translate),
  ("prefix", { operands := 1 }, fun g => g.operands.head?.map .showPrefix),
  ("register", { operands := 1 }, fun g => g.operands.head?.map .register),
  ("ensure-schema", { takesTenant := true }, fun g => some (.ensureSchema g.tenant)),
  ("schema-version", { takesTenant := true }, fun g => some (.schemaVersion g.tenant)),
  ("query", { takesTenant := true, operands := 1 },
    fun g => g.operands.head?.map fun sql => .query sql g.tenant)]

/-- Whether help can be asked for with these arguments: on the program, or on one of its commands. -/
def isHelpTopic : List String → Bool
  | [] => true
  | [name] => name = "help" || (commands.lookup name).isSome
  | _ => false

/-- Reads a command and the arguments after it. -/
def readCommand (before : Given) (name : String) (arguments : List String) :
    Except Stop Invocation := do
  match commands.lookup name with
  | none => throw (if name = "help" ∧ isHelpTopic arguments then .help else .misuse)
  | some (level, command?) =>
    let g ← level.readAll {} arguments
    match command? g with
    | none => throw .misuse
    | some command =>
      return {
        configuration := g.configuration <|> before.configuration
        descriptor := g.descriptor <|> before.descriptor
        command }

/-- What may stand in front of the command. -/
def top : Level := { showsVersion := true }

/-- Reads the arguments up to the command, and then the command. -/
def readFrom (g : Given) : List String → Except Stop Invocation
  | [] => .error .misuse
  | argument :: arguments =>
    match top.read argument with
    | .stop why => .error why
    | .set switch value => do readFrom (← g.set value switch) arguments
    | .escape => .error .misuse
    | .plain name => readCommand g name arguments
    | .needsValue switch =>
      match arguments with
      | [] => .error .misuse
      | value :: arguments =>
        match Argument.ofString value with
        | .plain value => do readFrom (← g.set value switch) arguments
        | _ => .error .misuse

end Line

/-- What a line asks for. -/
def Invocation.read (arguments : List String) : Except Line.Stop Invocation :=
  Line.readFrom {} arguments

end Tenancy
