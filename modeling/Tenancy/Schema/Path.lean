import Tenancy.Failure
import Tenancy.Text.Numeral

/-!
# Extraction paths

A path leads from a document to one value in it: `$.a.b[0].c`. `Path.read` accepts a dollar sign and
one or more segments, each a key after a dot or an index between brackets; `Path.text` writes the
path again and `Path.literal` writes it as the array literal that the server's `#>` takes.
-/

namespace Tenancy.Schema
open Text

/-- One step of a path. -/
inductive Segment where
  | key (name : String)
  | index (i : Nat)
  deriving DecidableEq, Repr

/-- A path with at least one segment. -/
structure Path where
  first : Segment
  rest : List Segment
  deriving DecidableEq, Repr

/-- The segments of a path, from the document inwards. -/
def Path.segments (p : Path) : List Segment := p.first :: p.rest

/-- A character of a key. -/
def isKeyChar (c : Char) : Bool := c.isAlphanum || c = '_'

/-- Reads the segments of a path. -/
def readSegments : List Char → Except PathFault (List Segment)
  | [] => .ok []
  | '.' :: cs => do
    let key := cs.takeWhile isKeyChar
    if key.isEmpty then throw .emptyKey
    let rest ← readSegments (cs.dropWhile isKeyChar)
    return .key (String.ofList key) :: rest
  | '[' :: cs => do
    match _h : cs.dropWhile (· ≠ ']') with
    | [] => throw .unclosedBracket
    | _ :: after =>
      let some i := readNatural? maxWord64 (cs.takeWhile (· ≠ ']')) | throw .badIndex
      let rest ← readSegments after
      return .index i :: rest
  | _ :: _ => .error .noSegment
termination_by cs => cs.length
decreasing_by
  · have := (List.dropWhile_sublist (l := cs) isKeyChar).length_le
    simp only [List.length_cons]; omega
  · have := (List.dropWhile_sublist (l := cs) (fun c => decide (c ≠ ']'))).length_le
    rw [_h] at this
    simp only [List.length_cons] at this ⊢; omega

/-- Reads a path. -/
def Path.read (text : String) : Except PathFault Path :=
  match text.toList with
  | '$' :: cs => do
    match ← readSegments cs with
    | [] => throw .wholeDocument
    | first :: rest => return ⟨first, rest⟩
  | _ => .error .noRoot

/-- Reads a path; a fault names the text it was found in. -/
def Path.parse (text : String) : Except Failure Path :=
  (Path.read text).mapError fun fault => .schema (.path text fault)

/-- A segment as an element of an array literal. -/
def Segment.element : Segment → String
  | .key name => name
  | .index i => toString i

/-- The array literal of a path, for the server's `#>` and `#>>`. -/
def Path.literal (p : Path) : String :=
  "'\x7b" ++ ",".intercalate (p.segments.map Segment.element) ++ "\x7d'"

/-- A segment as it is written in a path. -/
def Segment.text : Segment → String
  | .key name => s!".{name}"
  | .index i => s!"[{i}]"

/-- The path as text. -/
def Path.text (p : Path) : String := "$" ++ String.join (p.segments.map Segment.text)

end Tenancy.Schema
