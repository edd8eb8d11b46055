import Tenancy.Text.Word

/-!
# Certificates

The certificate of an authority is read from a text: a block between two lines that name it, with the
bytes of the certificate in base 64. `hasCertificate` tells whether there is one, from the outermost
structure of its bytes; what the certificate says is not looked at.
-/

namespace Tenancy.Certificate
open Tenancy.Text

/-- The value of a character in base 64. -/
def digit? (c : Char) : Option Nat :=
  if 'A' ≤ c ∧ c ≤ 'Z' then some (c.toNat - 'A'.toNat)
  else if 'a' ≤ c ∧ c ≤ 'z' then some (c.toNat - 'a'.toNat + 26)
  else if c.isDigit then some (c.toNat - '0'.toNat + 52)
  else if c = '+' then some 62
  else if c = '/' then some 63
  else none

/-- The bytes that digits of base 64 spell, four digits at a time. -/
def bytes? : List Char → Option (List UInt8)
  | [] => some []
  | [a, b, '=', '='] => do
    return [UInt8.ofNat ((← digit? a) * 4 + (← digit? b) / 16)]
  | [a, b, c, '='] => do
    let n := ((← digit? a) * 64 + (← digit? b)) * 64 + (← digit? c)
    return [UInt8.ofNat (n / 1024), UInt8.ofNat (n / 4)]
  | a :: b :: c :: d :: cs => do
    let n := (((← digit? a) * 64 + (← digit? b)) * 64 + (← digit? c)) * 64 + (← digit? d)
    return UInt8.ofNat (n / 65536) :: UInt8.ofNat (n / 256) :: UInt8.ofNat n :: (← bytes? cs)
  | _ => none

/-- The length that follows a tag, and the bytes after it. -/
def length? : List UInt8 → Option (Nat × List UInt8)
  | [] => none
  | b :: bs =>
    if b < 0x80 then some (b.toNat, bs)
    else
      let width := b.toNat - 0x80
      if width = 0 ∨ 4 < width ∨ bs.length < width then none
      else some ((bs.take width).foldl (fun n b => n * 256 + b.toNat) 0, bs.drop width)

/-- The first element of some bytes: its tag, its content and what follows it. -/
def element? : List UInt8 → Option (UInt8 × List UInt8 × List UInt8)
  | [] => none
  | tag :: bs => do
    let (n, bs) ← length? bs
    if n ≤ bs.length then some (tag, bs.take n, bs.drop n) else none

/-- The tags of the elements that some bytes are made of, at most `bound` of them. -/
def tags? : (bound : Nat) → List UInt8 → Option (List UInt8)
  | _, [] => some []
  | 0, _ => none
  | bound + 1, bs => do
    let (tag, _, rest) ← element? bs
    return tag :: (← tags? bound rest)

/-- The tag of a sequence. -/
def sequence : UInt8 := 0x30

/-- The tag of a string of bits. -/
def bitString : UInt8 := 0x03

/-- Whether bytes begin with a sequence of three: what is certified, how it is signed, and the
signature. -/
def isCertificate (bs : List UInt8) : Bool :=
  match element? bs with
  | some (tag, content, _) =>
    tag = sequence ∧ tags? 3 content = some [sequence, sequence, bitString]
  | none => false

/-- The names of blocks with certificates. -/
def blockNames : List String := ["CERTIFICATE", "X509 CERTIFICATE", "TRUSTED CERTIFICATE"]

/-- A line without the blanks at its end. -/
def trimEnd (line : String) : String :=
  String.ofList ((line.toList.reverse.dropWhile isBlank).reverse)

/-- The lines of the first block with a certificate. -/
def block? : List String → Option (List String)
  | [] => none
  | line :: lines =>
    match blockNames.find? fun name => line = s!"-----BEGIN {name}-----" with
    | some name =>
      let last := s!"-----END {name}-----"
      if lines.contains last then some (lines.takeWhile (· ≠ last)) else none
    | none => block? lines

end Tenancy.Certificate

namespace Tenancy

/-- Whether a text holds a certificate. -/
def hasCertificate (text : String) : Bool :=
  let lines := (text.splitOn "\n").map Certificate.trimEnd
  match Certificate.block? lines with
  | some block => ((Certificate.bytes? (String.join block).toList).map Certificate.isCertificate).getD false
  | none => false

end Tenancy
