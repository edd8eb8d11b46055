import Tenancy.Json.Value

/-!
# JSON text

`Json.text` writes a value without blanks. In strings only the quote, the backslash and the control
characters are escaped.
-/

namespace Tenancy.Json

/-- A character inside a string. -/
def escapeChar (c : Char) : List Char :=
  if c = '"' then ['\\', '"']
  else if c = '\\' then ['\\', '\\']
  else if c = '\n' then ['\\', 'n']
  else if c = '\r' then ['\\', 'r']
  else if c = '\t' then ['\\', 't']
  else if c = '\x08' then ['\\', 'b']
  else if c = '\x0c' then ['\\', 'f']
  else if c.toNat < 16 then ['\\', 'u', '0', '0', '0'] ++ Nat.toDigits 16 c.toNat
  else if c.toNat < 32 then ['\\', 'u', '0', '0'] ++ Nat.toDigits 16 c.toNat
  else [c]

/-- A string between quotes. -/
def stringText (s : String) : List Char := '"' :: s.toList.flatMap escapeChar ++ ['"']

mutual

/-- The characters of a value's text. -/
def chars : Json → List Char
  | .null => "null".toList
  | .bool b => if b then "true".toList else "false".toList
  | .int n => (toString n).toList
  | .float x => (Number.compactText x).toList
  | .str s => stringText s
  | .arr items => '[' :: itemChars items
  | .obj fields => '{' :: fieldChars fields

/-- The items of an array and the closing bracket. -/
def itemChars : List Json → List Char
  | [] => [']']
  | [v] => chars v ++ [']']
  | v :: vs => chars v ++ ',' :: itemChars vs

/-- The fields of an object and the closing brace. -/
def fieldChars : List (String × Json) → List Char
  | [] => ['}']
  | [(k, v)] => stringText k ++ ':' :: chars v ++ ['}']
  | (k, v) :: fs => stringText k ++ ':' :: chars v ++ ',' :: fieldChars fs

end

/-- The text of a value. -/
def text (v : Json) : String := String.ofList v.chars

end Tenancy.Json
