import Tenancy.Toml.Scalar
import Tenancy.Toml.Text

/-!
# Reading TOML

A document is a list of statements: entries, which give keys their values, and headers, which say to
which table the entries below them belong. `statements?` reads them and `assemble?` builds the
tables, which may be defined once only: by a header, by dotted keys, or on the way to another table.
-/

namespace Tenancy.Toml

/-! ## Statements -/

/-- A blank within a line. -/
def isGap (c : Char) : Bool := c = ' ' || c = '\t'

/-- The text without blanks in front. -/
def skipGap (cs : List Char) : List Char := cs.dropWhile isGap

/-- The text after a comment, if there is one in front. -/
def skipComment : List Char → List Char
  | '#' :: cs => cs.dropWhile (· ≠ '\n')
  | cs => cs

/-- The text without blanks, line ends and comments in front; `comment` holds within a comment. -/
def skipLines (comment : Bool) : List Char → List Char
  | [] => []
  | c :: cs =>
    if c = '\n' then skipLines false cs
    else if comment ∨ isGap c then skipLines comment cs
    else if c = '#' then skipLines true cs
    else c :: cs

/-- A character of a key without quotes. -/
def isKeyChar (c : Char) : Bool := c.isAlphanum || c = '_' || c = '-'

/-- Reads one part of a key. -/
def readKeyPart? (cs : List Char) : Option (String × List Char) :=
  match cs with
  | '"' :: cs => (readBasic? cs).map fun (s, rest) => (String.ofList s, rest)
  | c :: rest =>
    if c = apostrophe then (readLiteral? rest).map fun (s, rest) => (String.ofList s, rest)
    else
      let key := cs.takeWhile isKeyChar
      if key = [] then none else some (String.ofList key, cs.dropWhile isKeyChar)
  | [] => none

/-- Reads the parts of a key between dots, at most `bound`, and the blanks around them. -/
def readKey? : (bound : Nat) → List Char → Option (List String × List Char)
  | 0, _ => none
  | bound + 1, cs => do
    let (part, rest) ← readKeyPart? (skipGap cs)
    match skipGap rest with
    | '.' :: rest =>
      let (parts, rest) ← readKey? bound rest
      return (part :: parts, rest)
    | rest => return ([part], rest)

/-- How many parts a key may have, and how deep values may nest. -/
def maxDepth : Nat := 79

/-- A character of a word. -/
def isWordChar (c : Char) : Bool := c.isAlphanum || c ∈ ['+', '-', '_', '.', ':']

/-- Reads a word, or a date and a time of day with a space between them. -/
def readWord? (cs : List Char) : Option (Toml × List Char) :=
  let word := cs.takeWhile isWordChar
  let rest := cs.dropWhile isWordChar
  match rest with
  | ' ' :: after =>
    let next := after.takeWhile isWordChar
    if completesDate word next then
      some (.time (String.ofList (word ++ ' ' :: next)), after.dropWhile isWordChar)
    else (readScalar? word).map (·, rest)
  | _ => (readScalar? word).map (·, rest)

/-! ## Tables -/

/-- How a table came to be. -/
inductive Origin where
  /-- By a header of its own. -/
  | header
  /-- By the header of a table inside it. -/
  | path
  /-- By a dotted key. -/
  | dots
  deriving DecidableEq, Repr

/-- What a key stands for while a document is read. -/
inductive Node where
  | value (v : Toml)
  | table (origin : Origin) (fields : List (String × Node))
  | tables (items : List (List (String × Node)))

/-- The keys of a table that is not finished. -/
abbrev Fields := List (String × Node)

namespace Fields

/-- What a key stands for. -/
def get? (fields : Fields) (key : String) : Option Node :=
  (fields.find? fun f => f.1 = key).map (·.2)

/-- The fields with a key set. -/
def set (key : String) (node : Node) : Fields → Fields
  | [] => [(key, node)]
  | f :: fs => if f.1 = key then (key, node) :: fs else f :: set key node fs

/-- Changes the table at the end of a path. Tables that are missing on the way are made; of a list of
tables the last one is meant. -/
def changeAt? (change : Fields → Option Fields) : List String → Fields → Option Fields
  | [], fields => change fields
  | key :: path, fields => do
    match fields.get? key with
    | none => return fields.set key (.table .path (← changeAt? change path []))
    | some (.table origin inner) => return fields.set key (.table origin (← changeAt? change path inner))
    | some (.tables items) =>
      let last ← items.getLast?
      return fields.set key (.tables (items.dropLast ++ [← changeAt? change path last]))
    | some (.value _) => none

/-- Gives a key with dots its value. The tables on the way must not have a header of their own, and
the last of them must be one that dotted keys made. -/
def insert? (value : Toml) : (inDots : Bool) → List String → Fields → Option Fields
  | _, [], _ => none
  | inDots, [key], fields =>
    if inDots ∧ (fields.get? key).isNone then some (fields.set key (.value value)) else none
  | _, key :: part :: parts, fields => do
    match fields.get? key with
    | none => return fields.set key (.table .dots (← insert? value true (part :: parts) []))
    | some (.table .header _) => none
    | some (.table origin inner) =>
      let inner ← insert? value (origin = .dots) (part :: parts) inner
      return fields.set key (.table origin inner)
    | some (.tables items) =>
      let last ← insert? value false (part :: parts) (← items.getLast?)
      return fields.set key (.tables (items.dropLast ++ [last]))
    | some (.value _) => none

/-- Gives many keys their values. -/
def insertAll? (entries : List (List String × Toml)) (fields : Fields) : Option Fields :=
  entries.foldlM (fun fields (key, value) => insert? value true key fields) fields

end Fields

mutual

/-- The value that a key stands for in the end. -/
def Node.toValue : Node → Toml
  | .value v => v
  | .table _ fields => .table (fieldValues fields)
  | .tables items => .array (tableValues items)

/-- The keys of a table and their values. -/
def fieldValues : List (String × Node) → List (String × Toml)
  | [] => []
  | (key, node) :: fields => (key, node.toValue) :: fieldValues fields

/-- The tables of a list. -/
def tableValues : List (List (String × Node)) → List Toml
  | [] => []
  | fields :: items => .table (fieldValues fields) :: tableValues items

end

/-! ## Values -/

/-- Reads the items of an array after its opening bracket or a comma. A comma may stand after the last
one. -/
def readItems? (item : List Char → Option (Toml × List Char)) :
    (bound : Nat) → List Char → Option (List Toml × List Char)
  | 0, _ => none
  | bound + 1, cs =>
    match skipLines false cs with
    | ']' :: rest => some ([], rest)
    | cs => do
      let (v, rest) ← item cs
      match skipLines false rest with
      | ']' :: rest => return ([v], rest)
      | ',' :: rest =>
        let (vs, rest) ← readItems? item bound rest
        return (v :: vs, rest)
      | _ => none

/-- Reads the entries of a table on one line after its opening brace or a comma. -/
def readEntries? (item : List Char → Option (Toml × List Char)) :
    (bound : Nat) → List Char → Option (List (List String × Toml) × List Char)
  | 0, _ => none
  | bound + 1, cs => do
    let (key, rest) ← readKey? maxDepth cs
    match rest with
    | '=' :: rest =>
      let (v, rest) ← item (skipGap rest)
      match skipGap rest with
      | '}' :: rest => return ([(key, v)], rest)
      | ',' :: rest =>
        let (entries, rest) ← readEntries? item bound rest
        return ((key, v) :: entries, rest)
      | _ => none
    | _ => none

/-- Reads a value that may hold values nested `depth` deep. -/
def readValue? : (depth : Nat) → List Char → Option (Toml × List Char)
  | _, [] => none
  | depth, c :: cs =>
    if c = '"' ∨ c = apostrophe then
      (readString? (c :: cs)).map fun (s, rest) => (.str (String.ofList s), rest)
    else if c = '[' then
      match depth with
      | 0 => none
      | depth + 1 => (readItems? (readValue? depth) cs.length cs).map fun (vs, rest) => (.array vs, rest)
    else if c = '{' then
      match depth, skipGap cs with
      | 0, _ => none
      | _ + 1, '}' :: rest => some (.table [], rest)
      | depth + 1, cs => do
        let (entries, rest) ← readEntries? (readValue? depth) cs.length cs
        return (.table (fieldValues (← Fields.insertAll? entries [])), rest)
    else readWord? (c :: cs)

/-! ## Documents -/

/-- A statement of a document. -/
inductive Statement where
  | entry (key : List String) (value : Toml)
  /-- The entries below belong to the table at a path, or to a new table of the list there. -/
  | header (path : List String) (isList : Bool)

/-- Reads a statement. -/
def readStatement? (cs : List Char) : Option (Statement × List Char) :=
  match cs with
  | '[' :: '[' :: cs => do
    match ← readKey? maxDepth cs with
    | (path, ']' :: ']' :: rest) => some (.header path true, rest)
    | _ => none
  | '[' :: cs => do
    match ← readKey? maxDepth cs with
    | (path, ']' :: rest) => some (.header path false, rest)
    | _ => none
  | cs => do
    match ← readKey? maxDepth cs with
    | (key, '=' :: rest) =>
      let (v, rest) ← readValue? maxDepth (skipGap rest)
      some (.entry key v, rest)
    | _ => none

/-- Reads all statements, each of which ends its line. A statement takes at least one character, so the
length of the text bounds their number. -/
def statements? : (bound : Nat) → List Char → Option (List Statement)
  | 0, cs => if skipLines false cs = [] then some [] else none
  | bound + 1, cs =>
    match skipLines false cs with
    | [] => some []
    | cs => do
      let (statement, rest) ← readStatement? cs
      match skipComment (skipGap rest) with
      | [] => return [statement]
      | '\n' :: rest => return statement :: (← statements? bound rest)
      | _ => none

/-- Adds a table with its entries at a path. -/
def addTable? (path : List String) (isList : Bool) (entries : List (List String × Toml))
    (root : Fields) : Option Fields := do
  let key ← path.getLast?
  let change (fields : Fields) : Option Fields := do
    match isList, fields.get? key with
    | true, none => return fields.set key (.tables [← Fields.insertAll? entries []])
    | true, some (.tables items) =>
      return fields.set key (.tables (items ++ [← Fields.insertAll? entries []]))
    | false, none => return fields.set key (.table .header (← Fields.insertAll? entries []))
    | false, some (.table .path inner) =>
      return fields.set key (.table .header (← Fields.insertAll? entries inner))
    | _, _ => none
  root.changeAt? change path.dropLast

/-- The entries in front of the next header, and the statements from there on. -/
def leadingEntries : List Statement → List (List String × Toml) × List Statement
  | .entry key value :: rest =>
    let (entries, rest) := leadingEntries rest
    ((key, value) :: entries, rest)
  | rest => ([], rest)

/-- Adds the tables of all headers. -/
def addTables? : (bound : Nat) → List Statement → Fields → Option Fields
  | bound + 1, .header path isList :: rest, root => do
    let (entries, rest) := leadingEntries rest
    addTables? bound rest (← addTable? path isList entries root)
  | _, [], root => some root
  | _, _, _ => none

/-- Builds the tables that statements define. -/
def assemble? (statements : List Statement) : Option Fields := do
  let (entries, rest) := leadingEntries statements
  addTables? rest.length rest (← Fields.insertAll? entries [])

/-- The text with line feeds alone at the ends of lines. -/
def plainLines : List Char → List Char
  | '\r' :: '\n' :: cs => '\n' :: plainLines cs
  | c :: cs => c :: plainLines cs
  | [] => []

/-- The fields of the document that a text spells. -/
def parse? (text : String) : Option (List (String × Toml)) := do
  let cs := plainLines text.toList
  let cs := if cs.head? = some '\uFEFF' then cs.tail else cs
  if cs.any isControl then none
  else
    let statements ← statements? cs.length cs
    return fieldValues (← assemble? statements)

end Tenancy.Toml
