import Tenancy.Text.MarkTable

/-!
# The composed form of a text

A letter with marks can be written in several ways: as one character, or as a letter and its marks,
and marks that do not touch each other in any order. `compose` chooses one: everything is taken apart
with `parts?`, marks are put in the order of their ranks, and what can be one character becomes one
again with `whole?`. It takes for granted that the text holds no character, like the ohm sign,
that is only another name of a character.
-/

namespace Tenancy.Text

/-- Whether a character is a mark on the character before it. -/
def isMark (c : Char) : Bool := markIntervals.contains c.toNat

/-- Whether a character is a mark that takes up no room. -/
def isNonspacing (c : Char) : Bool := isMark c && !spacingMarkIntervals.contains c.toNat

/-- The rank of a character among the marks on one character; zero for all that is no such mark. -/
def markRank (c : Char) : Nat :=
  match rankRuns.find? fun (first, last, _) => first ≤ c.toNat && c.toNat ≤ last with
  | some (_, _, rank) => rank
  | none => 0

/-- The syllable that a consonant and a vowel of the Korean alphabet form, or an open syllable and a
closing consonant. -/
def syllable? (a b : Nat) : Option Nat :=
  if 0x1100 ≤ a ∧ a < 0x1113 ∧ 0x1161 ≤ b ∧ b < 0x1176 then
    some (0xAC00 + ((a - 0x1100) * 21 + (b - 0x1161)) * 28)
  else if 0xAC00 ≤ a ∧ a < 0xD7A4 ∧ (a - 0xAC00) % 28 = 0 ∧ 0x11A7 < b ∧ b < 0x11C3 then
    some (a + (b - 0x11A7))
  else none

/-- The two parts of a syllable of the Korean alphabet. -/
def syllableParts? (n : Nat) : Option (Nat × Nat) :=
  if n < 0xAC00 ∨ 0xD7A4 ≤ n then none
  else if (n - 0xAC00) % 28 = 0 then
    some (0x1100 + (n - 0xAC00) / 588, 0x1161 + (n - 0xAC00) % 588 / 28)
  else some (n - (n - 0xAC00) % 28, 0x11A7 + (n - 0xAC00) % 28)

/-- The one character that two characters form. -/
def whole? (a b : Char) : Option Char :=
  match syllable? a.toNat b.toNat with
  | some n => some (Char.ofNat n)
  | none => compositionRows.findSome? fun (mark, bases, wholes) =>
      if mark = b.toNat then
        ((bases.toList.zip wholes.toList).find? fun (base, _) => base = a).map Prod.snd
      else none

/-- The two characters that a character is formed of. -/
def parts? (c : Char) : Option (Char × Char) :=
  match syllableParts? c.toNat with
  | some (a, b) => some (Char.ofNat a, Char.ofNat b)
  | none => compositionRows.findSome? fun (mark, bases, wholes) =>
      ((bases.toList.zip wholes.toList).find? fun (_, whole) => whole = c).map
        fun (base, _) => (base, Char.ofNat mark)

/-- A character taken apart, at most `depth` times; no character needs more than four. -/
def apart : Nat → Char → List Char
  | 0, c => [c]
  | depth + 1, c =>
    match parts? c with
    | some (a, b) => apart depth a ++ [b]
    | none => [c]

/-- Puts a character before the text, which is held last character first: a mark goes behind the marks of
higher rank. -/
def place (c : Char) : List Char → List Char
  | [] => [c]
  | p :: before =>
    if 0 < markRank c ∧ markRank c < markRank p then p :: place c before else c :: p :: before

/-- The composed form of `base`, of marks after it that stay apart from it, last one first, and of the
text that follows. A character joins the base when no mark between them is of its rank or higher. -/
def composeFrom (base : Char) (marks : List Char) : List Char → List Char
  | [] => base :: marks.reverse
  | c :: cs =>
    let whole := if marks.head?.all (markRank · < markRank c) then whole? base c else none
    match whole with
    | some d => composeFrom d marks cs
    | none =>
      if markRank c = 0 then base :: marks.reverse ++ composeFrom c [] cs
      else composeFrom base (c :: marks) cs

/-- The composed form of a text. -/
def compose (cs : List Char) : List Char :=
  match ((cs.flatMap (apart 4)).foldl (fun before c => place c before) []).reverse with
  | [] => []
  | c :: rest => composeFrom c [] rest

end Tenancy.Text
