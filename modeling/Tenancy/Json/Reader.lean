import Tenancy.Json.Number
import Tenancy.Text.Utf8

/-!
# Reading JSON

Text becomes tokens, tokens become a value. Values nest at most `maxDepth` deep; whatever follows a
value but blanks makes the text no JSON.
-/

namespace Tenancy.Json
open Text

/-- The marks and scalars of JSON text. -/
inductive Token where
  | openArray
  | closeArray
  | openObject
  | closeObject
  | comma
  | colon
  | str (s : String)
  | scalar (v : Json)

/-- The number that four hexadecimal digits denote. -/
def hexUnit? (a b c d : Char) : Option Nat := do
  return (((← hexValue? a) * 16 + (← hexValue? b)) * 16 + (← hexValue? c)) * 16 + (← hexValue? d)

/-- The character after a backslash, where one character decides. -/
def unescape? (c : Char) : Option Char :=
  if c = '"' ∨ c = '\\' ∨ c = '/' then some c
  else if c = 'b' then some '\x08'
  else if c = 'f' then some '\x0c'
  else if c = 'n' then some '\n'
  else if c = 'r' then some '\r'
  else if c = 't' then some '\t'
  else none

/-- Reads a string after its opening quote. A pair of escaped surrogates is one character; a surrogate
alone is refused, and so is a control character. -/
def readString? : List Char → Option (List Char × List Char)
  | [] => none
  | '"' :: cs => some ([], cs)
  | '\\' :: 'u' :: a :: b :: c :: d :: '\\' :: 'u' :: e :: f :: g :: h :: cs => do
    let n ← hexUnit? a b c d
    if 0xD800 ≤ n ∧ n < 0xDC00 then
      let m ← hexUnit? e f g h
      if 0xDC00 ≤ m ∧ m < 0xE000 then
        let (s, rest) ← readString? cs
        return (Char.ofNat (0x10000 + (n - 0xD800) * 1024 + (m - 0xDC00)) :: s, rest)
      else none
    else if 0xDC00 ≤ n ∧ n < 0xE000 then none
    else
      let (s, rest) ← readString? ('\\' :: 'u' :: e :: f :: g :: h :: cs)
      return (Char.ofNat n :: s, rest)
  | '\\' :: 'u' :: a :: b :: c :: d :: cs => do
    let n ← hexUnit? a b c d
    if 0xD800 ≤ n ∧ n < 0xE000 then none
    else
      let (s, rest) ← readString? cs
      return (Char.ofNat n :: s, rest)
  | '\\' :: c :: cs => do
    let c ← unescape? c
    let (s, rest) ← readString? cs
    return (c :: s, rest)
  | c :: cs =>
    if c.toNat < 32 ∨ c = '\\' then none
    else do
      let (s, rest) ← readString? cs
      return (c :: s, rest)

/-- Reads one token; blanks are to be skipped before. -/
def readToken? : List Char → Option (Token × List Char)
  | [] => none
  | '[' :: cs => some (.openArray, cs)
  | ']' :: cs => some (.closeArray, cs)
  | '{' :: cs => some (.openObject, cs)
  | '}' :: cs => some (.closeObject, cs)
  | ',' :: cs => some (.comma, cs)
  | ':' :: cs => some (.colon, cs)
  | '"' :: cs => (readString? cs).map fun (s, rest) => (.str (String.ofList s), rest)
  | 'n' :: 'u' :: 'l' :: 'l' :: cs => some (.scalar .null, cs)
  | 't' :: 'r' :: 'u' :: 'e' :: cs => some (.scalar (.bool true), cs)
  | 'f' :: 'a' :: 'l' :: 's' :: 'e' :: cs => some (.scalar (.bool false), cs)
  | cs => (readNumber? cs).map fun (v, rest) => (.scalar v, rest)

/-- The blanks between tokens. -/
def isGap (c : Char) : Bool := c = ' ' || c = '\n' || c = '\t' || c = '\r'

/-- The tokens of a text; none if some part of it is no token. A token takes at least one character,
so the length of the text bounds their number. -/
def tokens? : (bound : Nat) → List Char → Option (List Token)
  | 0, cs => if (cs.dropWhile isGap).isEmpty then some [] else none
  | bound + 1, cs =>
    match cs.dropWhile isGap with
    | [] => some []
    | c :: cs => do
      let (t, rest) ← readToken? (c :: cs)
      let ts ← tokens? bound rest
      return t :: ts

/-- The items of an array after its opening bracket or a comma. -/
def readItems? (item : List Token → Option (Json × List Token)) :
    (bound : Nat) → List Token → Option (List Json × List Token)
  | 0, _ => none
  | bound + 1, ts => do
    let (v, rest) ← item ts
    match rest with
    | .closeArray :: rest => return ([v], rest)
    | .comma :: rest =>
      let (vs, rest) ← readItems? item bound rest
      return (v :: vs, rest)
    | _ => none

/-- The fields of an object after its opening brace or a comma. -/
def readFields? (item : List Token → Option (Json × List Token)) :
    (bound : Nat) → List Token → Option (List (String × Json) × List Token)
  | 0, _ => none
  | bound + 1, .str k :: .colon :: ts => do
    let (v, rest) ← item ts
    match rest with
    | .closeObject :: rest => return ([(k, v)], rest)
    | .comma :: rest =>
      let (fs, rest) ← readFields? item bound rest
      return ((k, v) :: fs, rest)
    | _ => none
  | _ + 1, _ => none

/-- Reads a value that may hold values nested `depth` deep. -/
def readValue? : (depth : Nat) → List Token → Option (Json × List Token)
  | _, .str s :: ts => some (.str s, ts)
  | _, .scalar v :: ts => some (v, ts)
  | _ + 1, .openArray :: .closeArray :: ts => some (.arr [], ts)
  | depth + 1, .openArray :: ts => do
    let (vs, rest) ← readItems? (readValue? depth) ts.length ts
    return (.arr vs, rest)
  | _ + 1, .openObject :: .closeObject :: ts => some (.obj [], ts)
  | depth + 1, .openObject :: ts => do
    let (fs, rest) ← readFields? (readValue? depth) ts.length ts
    return (.object fs, rest)
  | _, _ => none

/-- How deep arrays and objects may nest. -/
def maxDepth : Nat := 127

/-- The value that a text spells. -/
def parse? (text : String) : Option Json := do
  let ts ← tokens? text.length text.toList
  match ← readValue? maxDepth ts with
  | (v, []) => some v
  | _ => none

end Tenancy.Json
