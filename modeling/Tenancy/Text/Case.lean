import Tenancy.Text.CaseTable

/-!
# Lower case and case folding

`lower` is full lower-casing: one character may become two, and a capital sigma at the end of a word
becomes the final form. `foldChar` sends a character to the representative of its simple
case-folding class, so two characters match without regard to case when their representatives agree.
-/

namespace Tenancy.Text

/-- Whether a character has a case. -/
def isCased (c : Char) : Bool := casedIntervals.contains c.toNat

/-- Whether a character is passed over when the case of a neighbour is decided. -/
def isCaseIgnorable (c : Char) : Bool := caseIgnorableIntervals.contains c.toNat

/-- The lower case of a character taken alone. -/
def lowerChar (c : Char) : List Char :=
  if c = 'İ' then ['i', '\u0307']
  else match lowerShifts.image? c.toNat with
    | some n => [Char.ofNat n]
    | none => [c]

/-- The first character that counts for case is a cased one. -/
def casedFirst (cs : List Char) : Bool :=
  (cs.dropWhile isCaseIgnorable).head?.any isCased

/-- Lower case of the text after `before`, which is given last character first. A capital sigma that
ends a word takes its final form. -/
def lowerFrom (before : List Char) : List Char → List Char
  | [] => []
  | c :: cs =>
    if c = 'Σ' then
      (if casedFirst before && !casedFirst cs then 'ς' else 'σ') :: lowerFrom (c :: before) cs
    else lowerChar c ++ lowerFrom (c :: before) cs

/-- Lower case of a text. -/
def lower (cs : List Char) : List Char := lowerFrom [] cs

/-- Lower case of a string. -/
def lowerString (s : String) : String := String.ofList (lower s.toList)

/-- Lower case of the ASCII letters alone. -/
def lowerAscii (s : String) : String := String.ofList (s.toList.map Char.toLower)

/-- The representative of a character's simple case-folding class. -/
def foldChar (c : Char) : Char :=
  match foldShifts.image? c.toNat with
  | some n => Char.ofNat n
  | none => c

/-- What follows `word`, read at the head of a text without regard to case. -/
def afterFolded? : List Char → List Char → Option (List Char)
  | [], cs => some cs
  | _ :: _, [] => none
  | w :: ws, c :: cs => if foldChar c = foldChar w then afterFolded? ws cs else none

end Tenancy.Text
