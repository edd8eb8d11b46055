import Tenancy.Text.Utf8
import Tenancy.Url.Percent
import Tenancy.Url.Domain.Direction
import Tenancy.Url.Domain.Fold
import Tenancy.Url.Domain.Joining
import Tenancy.Url.Domain.Punycode

/-!
# Domain names in URLs

A domain name is brought to one spelling, character by character and then as a composed text, and
each of its labels is written in ASCII: a label with other characters as `xn--` and its punycode.
A label that is already written so has to stand for a label in that one spelling.
-/

namespace Tenancy.Url
open Text

/-- A character that no domain name contains. -/
def isDenied (c : Char) : Bool :=
  c.toNat ≤ 0x20 || c.toNat = 0x7F ||
    c ∈ ['%', '#', '/', ':', '<', '>', '?', '@', '[', '\\', ']', '^', '|']

/-- A part of a domain name between dots, as it is written and as it is read. -/
structure Label where
  written : List Char
  read : List Char

/-- Whether every character of a label may stand where it does. -/
def isWellPlaced (label : List Char) : Bool :=
  !label.head?.any isMark && joinersFit [] label

/-- Whether a text is in the one spelling of a label. -/
def isSettled (label : List Char) : Bool :=
  label.all (fun c => c ≠ '.' && !isDenied c && spelling? c == some [c]) && compose label == label

/-- How many characters a label with other characters than ASCII may have. -/
def maxLabelLength : Nat := 1000

/-- How many characters punycode may have. -/
def maxCodeLength : Nat := 2000

/-- What a text with punycode after `xn--` stands for. There is at least one character outside ASCII, so
the text does not end in a hyphen, and it stands for no text that itself begins with `xn--`. -/
def readCode? (code : List Char) : Option (List Char) := do
  let label ← Punycode.decode? code
  if code.length ≤ maxCodeLength && code.getLast?.any (· ≠ '-') && isSettled label &&
      label.take 4 ≠ ['x', 'n', '-', '-'] then
    some label
  else none

/-- The label that a text in the one spelling is. -/
def Label.ofText? (text : List Char) : Option Label :=
  match text with
  | 'x' :: 'n' :: '-' :: '-' :: code =>
    match readCode? code with
    | some label => if isWellPlaced label then some ⟨text, label⟩ else none
    | none => none
  | _ =>
    if text.all (·.toNat < 0x80) then some ⟨text, text⟩
    else if isWellPlaced text && text.length ≤ maxLabelLength then
      some ⟨'x' :: 'n' :: '-' :: '-' :: Punycode.encode text, text⟩
    else none

/-- The ASCII form of a domain name. -/
def asciiDomain? (bytes : List UInt8) : Option (List Char) := do
  let cs ← utf8? bytes
  let text := compose (← cs.mapM spelling?).flatten
  if text.any isDenied then none
  else
    let labels ← (text.splitOn '.').mapM Label.ofText?
    if directionsAgree (labels.map Label.read) then
      some (['.'].intercalate (labels.map Label.written))
    else none

end Tenancy.Url
