import Tenancy.Text.Utf8

/-!
# Percent signs in URLs

A percent sign and two hexadecimal digits stand for a byte. `percentDecode` reads them, `percentEncode`
writes the bytes of the characters that cannot stand for themselves, and `formPairs` reads the pairs
of a query.
-/

namespace Tenancy.Url
open Text

/-- The bytes that a text stands for. A percent sign that no two digits follow stands for itself. -/
def percentDecode : List Char → List UInt8
  | [] => []
  | '%' :: h :: l :: cs =>
    match hexValue? h, hexValue? l with
    | some high, some low => UInt8.ofNat (high * 16 + low) :: percentDecode cs
    | _, _ => 0x25 :: percentDecode (h :: l :: cs)
  | c :: cs => String.utf8EncodeChar c ++ percentDecode cs

/-- The text that a part of a URL stands for. -/
def decoded (cs : List Char) : String := String.ofList (utf8Lossy (percentDecode cs))

/-- A text with the bytes of the characters in a class, and of all that are not ASCII or are control
characters, written as percent signs and digits. -/
def percentEncode (special : Char → Bool) (cs : List Char) : List Char :=
  cs.flatMap fun c =>
    if c.toNat < 0x20 ∨ 0x7F ≤ c.toNat ∨ special c then
      (String.utf8EncodeChar c).flatMap fun b => '%' :: hexByte true b
    else [c]

/-- A part of a query as text: a plus sign stands for a space. -/
def formText (cs : List Char) : String := decoded (cs.map fun c => if c = '+' then ' ' else c)

/-- The names and values of a query, in order. -/
def formPairs (query : List Char) : List (String × String) :=
  ((query.splitOn '&').filter (· ≠ [])).map fun pair =>
    (formText (pair.takeWhile (· ≠ '=')), formText ((pair.dropWhile (· ≠ '=')).drop 1))

end Tenancy.Url
