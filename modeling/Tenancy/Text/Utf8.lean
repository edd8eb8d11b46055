/-!
# Characters from bytes

Bytes are read as characters in UTF-8. Where they spell no character, the longest stretch that could
have begun one counts as a single fault: `utf8Lossy` shows each fault by a replacement character,
and `utf8?` refuses a text with a fault.
-/

namespace Tenancy.Text

/-- A character whose first bytes are read: the bits so far, how many bytes are left, and the range of
the next one. -/
structure OpenChar where
  bits : Nat
  left : Nat
  low : Nat := 0x80
  high : Nat := 0xBF

/-- What a byte can be at the start of a character. -/
inductive FirstByte where
  | char (c : Char)
  | opens (c : OpenChar)
  | fault

/-- Reads a byte at the start of a character. The ranges of the second byte leave out surrogates, code
points that are too large, and forms that are too long. -/
def firstByte (b : UInt8) : FirstByte :=
  let n := b.toNat
  if n < 0x80 then .char (Char.ofNat n)
  else if n < 0xC2 then .fault
  else if n < 0xE0 then .opens { bits := n - 0xC0, left := 1 }
  else if n = 0xE0 then .opens { bits := 0, left := 2, low := 0xA0 }
  else if n = 0xED then .opens { bits := 0xD, left := 2, high := 0x9F }
  else if n < 0xF0 then .opens { bits := n - 0xE0, left := 2 }
  else if n = 0xF0 then .opens { bits := 0, left := 3, low := 0x90 }
  else if n < 0xF4 then .opens { bits := n - 0xF0, left := 3 }
  else if n = 0xF4 then .opens { bits := 4, left := 3, high := 0x8F }
  else .fault

/-- The characters that bytes spell, after the first bytes of one; `none` is a fault. -/
def charsFrom : Option OpenChar → List UInt8 → List (Option Char)
  | none, [] => []
  | some _, [] => [none]
  | state, b :: bs =>
    let fresh : List (Option Char) :=
      match firstByte b with
      | .char c => some c :: charsFrom none bs
      | .opens c => charsFrom (some c) bs
      | .fault => none :: charsFrom none bs
    match state with
    | none => fresh
    | some c =>
      if c.low ≤ b.toNat ∧ b.toNat ≤ c.high then
        let bits := c.bits * 64 + (b.toNat - 0x80)
        if c.left = 1 then some (Char.ofNat bits) :: charsFrom none bs
        else charsFrom (some { bits, left := c.left - 1 }) bs
      else none :: fresh

/-- The characters that bytes spell, with `none` for each fault. -/
def utf8Chars (bytes : List UInt8) : List (Option Char) := charsFrom none bytes

/-- The text that bytes spell, with a replacement character for each fault. -/
def utf8Lossy (bytes : List UInt8) : List Char := (utf8Chars bytes).map (·.getD '\uFFFD')

/-- The text that bytes spell, if there is no fault. -/
def utf8? (bytes : List UInt8) : Option (List Char) := (utf8Chars bytes).mapM id

/-- The bytes of a text. -/
def utf8Bytes (cs : List Char) : List UInt8 := cs.flatMap String.utf8EncodeChar

/-- The value of a hexadecimal digit. -/
def hexValue? (c : Char) : Option Nat :=
  if c.isDigit then some (c.toNat - 48)
  else if 'a' ≤ c ∧ c ≤ 'f' then some (c.toNat - 87)
  else if 'A' ≤ c ∧ c ≤ 'F' then some (c.toNat - 55)
  else none

/-- The hexadecimal digits of a byte. -/
def hexByte (upper : Bool) (b : UInt8) : List Char :=
  let digit (n : Nat) : Char :=
    if n < 10 then Char.ofNat (48 + n) else Char.ofNat ((if upper then 55 else 87) + n)
  [digit (b.toNat / 16), digit (b.toNat % 16)]

end Tenancy.Text
