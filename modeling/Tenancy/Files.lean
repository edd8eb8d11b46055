import Tenancy.Procedure

/-!
# Files

A tree of directories with texts in it, and the two things that are done to it: a text is read, or
written into a file whose directories are made on the way. `Files.filing` is the interface for
procedures that keep something in a file.
-/

namespace Tenancy

/-- What a path leads to. -/
inductive Entry where
  | directory
  | file (text : String)
  deriving DecidableEq, Repr

/-- Directories and files by their names from the root on. -/
structure Files where
  /-- Where paths start that do not start at the root. -/
  workingDirectory : List String := []
  entries : List (List String × Entry) := []
  deriving DecidableEq, Repr

namespace Files

/-- The names in a path, each of which leads one step down or, as two dots, one step up. -/
def names (path : String) : List String :=
  (path.splitOn "/").filter fun name => name ≠ "" ∧ name ≠ "."

/-- Takes the steps that `names` say. -/
def walk (start : List String) (names : List String) : List String :=
  names.foldl (fun place name => if name = ".." then place.dropLast else place ++ [name]) start

/-- The names from the root to where a path leads. -/
def place (fs : Files) (path : String) : List String :=
  walk (if path.startsWith "/" then [] else fs.workingDirectory) (names path)

/-- The longest name of a file or a directory, in bytes. -/
def maxNameLength : Nat := 255

/-- What cannot be in a path wherever it leads. -/
def pathFault? (path : String) : Option FileFault :=
  if path.toList.contains '\x00' then some .nulCharacter
  else if path = "" then some .missing
  else if (names path).any fun name => maxNameLength < name.utf8ByteSize then some .nameTooLong
  else none

/-- The entry at a place. The root is a directory. -/
def entry? (fs : Files) (place : List String) : Option Entry :=
  if place = [] then some .directory else (fs.entries.find? fun e => e.1 = place).map (·.2)

/-- Goes down from the entry at a place by the names that are left. -/
def descend (fs : Files) (here : List String) : List String → Except FileFault Entry
  | [] =>
    match fs.entry? here with
    | some entry => .ok entry
    | none => .error .missing
  | name :: names =>
    match fs.entry? here with
    | some .directory => fs.descend (here ++ [name]) names
    | some (.file _) => .error .notDirectory
    | none => .error .missing

/-- Whether a path can only lead to a directory. -/
def endsInSlash (path : String) : Bool := path.toList.getLast? = some '/'

/-- What a path leads to. -/
def find (fs : Files) (path : String) : Except FileFault Entry :=
  match pathFault? path with
  | some fault => .error fault
  | none => do
    match ← fs.descend [] (fs.place path) with
    | .directory => return .directory
    | .file text => if endsInSlash path then throw .notDirectory else return .file text

/-- The text of a file. -/
def content (fs : Files) (path : String) : Except FileFault String := do
  match ← fs.find path with
  | .directory => throw .isDirectory
  | .file text => return text

/-- The text of a file, or nothing if there is no such file. -/
def content? (fs : Files) (path : String) : Except FileFault (Option String) :=
  match fs.find path with
  | .error _ => .ok none
  | .ok .directory => .error .isDirectory
  | .ok (.file text) => .ok (some text)

/-- Puts an entry at a place. -/
def put (fs : Files) (place : List String) (entry : Entry) : Files :=
  { fs with entries := (place, entry) :: fs.entries.filter fun e => e.1 ≠ place }

/-- Makes the directories that are missing on the way down. -/
def makeDirectories (fs : Files) (here : List String) : List String → Except FileFault Files
  | [] =>
    match fs.entry? here with
    | some (.file _) => .error .exists
    | some .directory => .ok fs
    | none => .ok (fs.put here .directory)
  | name :: names =>
    match fs.entry? here with
    | some (.file _) => .error .notDirectory
    | some .directory => fs.makeDirectories (here ++ [name]) names
    | none => (fs.put here .directory).makeDirectories (here ++ [name]) names

/-- Writes a text into a file. Its directories are made if need be. -/
def write (fs : Files) (path text : String) : Except FileFault Files :=
  match pathFault? path with
  | some fault => .error fault
  | none => do
    let place := fs.place path
    let fs ← fs.makeDirectories [] place.dropLast
    if endsInSlash path ∨ fs.entry? place = some .directory then throw .isDirectory
    return fs.put place (.file text)

/-- Takes a file away, if there is one. -/
def remove (fs : Files) (path : String) : Files :=
  { fs with entries := fs.entries.filter fun e => e.1 ≠ fs.place path }

end Files

/-- What is asked of files. -/
inductive FileRequest where
  | read (path : String)
  | write (path text : String)
  deriving DecidableEq, Repr

/-- Reading a file gives its text, or nothing if there is no such file. -/
def FileRequest.Answer : FileRequest → Type
  | read _ => Option String
  | write _ _ => Unit

namespace Files

/-- The interface of files. -/
def filing : Interface := ⟨FileRequest, FileRequest.Answer⟩

/-- What is done with files. -/
abbrev Filing := Procedure filing

/-- The answer of a tree of files to a request. -/
def answer : (r : FileRequest) → StateM Files (Except Failure r.Answer)
  | .read path => do return ((← get).content? path).mapError .file
  | .write path text => do
    match (← get).write path text with
    | .ok fs => set fs; return .ok ()
    | .error fault => return .error (.file fault)

/-- Asks for the text of a file. -/
def load (path : String) : Filing (Option String) :=
  Procedure.request (I := filing) (.read path)

/-- Asks for a text to be written into a file. -/
def save (path text : String) : Filing Unit := Procedure.request (I := filing) (.write path text)

end Files
end Tenancy
