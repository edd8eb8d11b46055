import Tenancy.Text.Case
import Tenancy.Text.PrintTable
import Tenancy.Url.Domain.FoldTable

/-!
# Spellings in domain names

Letters of either case, wide and narrow forms, ligatures and the like are one in a domain name.
`spelling?` says what a character stands for.
-/

namespace Tenancy.Url
open Text

/-- The image of `n` in rows of images of successive numbers, sorted by the first number of each. -/
def imageAt? {α β : Type} (images : β → List α) (rows : List (Nat × β)) (n : Nat) : Option α := do
  let (first, row) ← (rows.takeWhile fun (first, _) => first ≤ n).getLast?
  (images row)[n - first]?

/-- Whether no domain name may hold the character: it has no visible form, or it is barred. The two joiners
are judged by their neighbours instead. -/
def isBarred (c : Char) : Bool :=
  0x80 ≤ c.toNat && c.toNat ≠ 0x200C && c.toNat ≠ 0x200D &&
    (unprintableIntervals.contains c.toNat || barredIntervals.contains c.toNat)

/-- What a character stands for in a domain name: perhaps nothing, most often itself or its lower case.
There is no answer for a barred character. -/
def spelling? (c : Char) : Option (List Char) :=
  let n := c.toNat
  if silentIntervals.contains n then some []
  else match imageAt? String.toList spellingRows n with
    | some d => some [d]
    | none =>
      match imageAt? id expansionRows n with
      | some text => some text.toList
      | none =>
        match if keptCapitals.contains n then none else lowerShifts.image? n with
        | some m => some [Char.ofNat m]
        | none => if isBarred c then none else some [c]

end Tenancy.Url
