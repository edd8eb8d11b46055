import Tenancy.Failure
import Tenancy.Text.Utf8
import Tenancy.Text.Numeral
import Tenancy.Url.Percent

/-!
# Internet addresses in URLs

Addresses of four bytes may be written with one to four numbers, each decimal, octal after `0` or
hexadecimal after `0x`, the last one filling what is left. Addresses of eight words are written in
hexadecimal, with `::` for the longest run of zeros and perhaps four bytes at the end.
`ipv4Text` and `ipv6Text` write the one canonical form.
-/

namespace Tenancy.Url
open Text

/-- A number in the text of a four-byte address, whatever its size. -/
def ipv4Number? (cs : List Char) : Option Nat :=
  let value (base : Nat) (digits : List Char) : Option Nat :=
    digits.foldlM (fun n c => do
      let d ← hexValue? c
      if d < base then some (n * base + d) else none) 0
  match cs with
  | [] => none
  | ['0'] => some 0
  | '0' :: x :: digits => if x = 'x' ∨ x = 'X' then value 16 digits else value 8 (x :: digits)
  | _ => value 10 cs

/-- The dotted parts of a host name, without an empty one at the end. -/
def labels (host : List Char) : List (List Char) :=
  let parts := host.splitOn '.'
  if parts.getLast? = some [] then parts.dropLast else parts

/-- Whether a host name must be an address, because its last part is a number. -/
def endsInNumber (host : List Char) : Bool :=
  match (labels host).getLast? with
  | none => false
  | some last => (last ≠ [] && last.all Char.isDigit) || (ipv4Number? last).isSome

/-- The address that a host name spells. -/
def ipv4? (host : List Char) : Option Nat := do
  let numbers ← (labels host).mapM ipv4Number?
  let last ← numbers.getLast?
  let bytes := numbers.dropLast
  if 3 < bytes.length ∨ bytes.any (255 < ·) ∨ Nat.pow 256 (4 - bytes.length) ≤ last then none
  else some (bytes.foldl (fun n b => n * 256 + b) 0 * Nat.pow 256 (4 - bytes.length) + last)

/-- An address of four bytes as text. -/
def ipv4Text (n : Nat) : String :=
  ".".intercalate ([3, 2, 1, 0].map fun i => toString (n / Nat.pow 256 i % 256))

/-- A word of a long address: one to four hexadecimal digits. -/
def ipv6Word? (cs : List Char) : Option Nat :=
  if cs.length = 0 ∨ 4 < cs.length then none
  else cs.foldlM (fun n c => (hexValue? c).map (n * 16 + ·)) 0

/-- Four bytes at the end of a long address: decimal, without a leading zero. -/
def ipv6Tail? (cs : List Char) : Option (List Nat) := do
  let byte (digits : List Char) : Option Nat :=
    if digits.head? = some '0' ∧ digits ≠ ['0'] then none
    else (readDigits? digits).filter (· ≤ 255)
  match ← (cs.splitOn '.').mapM byte with
  | [a, b, c, d] => some [a * 256 + b, c * 256 + d]
  | _ => none

/-- The words of a stretch of a long address, with four bytes at its end where `tail` allows them. -/
def ipv6Words? (tail : Bool) (cs : List Char) : Option (List Nat) :=
  if cs = [] then some []
  else do
    let parts := cs.splitOn ':'
    let last ← parts.getLast?
    let ending ← if tail ∧ '.' ∈ last then ipv6Tail? last else (ipv6Word? last).map ([·])
    return (← parts.dropLast.mapM ipv6Word?) ++ ending

/-- What stands before and after the first `::`. -/
def atDoubleColon? : List Char → Option (List Char × List Char)
  | ':' :: ':' :: cs => some ([], cs)
  | [] => none
  | c :: cs => (atDoubleColon? cs).map fun (before, after) => (c :: before, after)

/-- The eight words of a long address. -/
def ipv6? (cs : List Char) : Option (List Nat) :=
  match atDoubleColon? cs with
  | none => (ipv6Words? true cs).filter (·.length = 8)
  | some (before, after) => do
    let head ← ipv6Words? false before
    let tail ← ipv6Words? true after
    if head.length + tail.length < 8 then
      some (head ++ List.replicate (8 - head.length - tail.length) 0 ++ tail)
    else none

/-- How many zeros a list starts with. -/
def zeros (words : List Nat) : Nat := (words.takeWhile (· = 0)).length

/-- The length of the longest run of zeros. -/
def longestZeros : List Nat → Nat
  | [] => 0
  | w :: ws => max (zeros (w :: ws)) (longestZeros ws)

/-- What stands before and after the first run of `n` zeros. -/
def cutZeros (n : Nat) : List Nat → List Nat × List Nat
  | [] => ([], [])
  | w :: ws =>
    if zeros (w :: ws) = n then ([], (w :: ws).drop n)
    else
      let (before, after) := cutZeros n ws
      (w :: before, after)

/-- An address of eight words as text. The first of the longest runs of two or more zeros becomes
`::`. -/
def ipv6Text (words : List Nat) : String :=
  let write (words : List Nat) : String :=
    ":".intercalate (words.map fun w => String.ofList (Nat.toDigits 16 w))
  let run := longestZeros words
  if run < 2 then write words
  else
    let (before, after) := cutZeros run words
    write before ++ "::" ++ write after

end Tenancy.Url
