import Tenancy.Text.Compose
import Tenancy.Url.Domain.JoiningTable

/-!
# Joiners between letters

The zero-width joiner and non-joiner may only stand where they can be seen: after the mark that
takes the vowel from a letter, and the non-joiner also between two letters that would be joined.
-/

namespace Tenancy.Url
open Text

/-- Whether a character is the mark that takes the vowel from the letter before it. -/
def isVirama (c : Char) : Bool := markRank c = 9

/-- Whether a character does not keep the letters around it from joining. -/
def isTransparent (c : Char) : Bool := isNonspacing c || c.toNat = 0x1E94B

/-- Whether the nearest letter would be joined to the right of it; the text is read backwards. -/
def joinsOnward (before : List Char) : Bool :=
  (before.dropWhile isTransparent).head?.any fun c =>
    dualJoiningIntervals.contains c.toNat || leftJoiningIntervals.contains c.toNat

/-- Whether the nearest letter would be joined to the left of it. -/
def joinsBack (after : List Char) : Bool :=
  (after.dropWhile isTransparent).head?.any fun c =>
    dualJoiningIntervals.contains c.toNat || rightJoiningIntervals.contains c.toNat

/-- Whether each joiner of a text stands in its place; `before` is what precedes, last character first. -/
def joinersFit (before : List Char) : List Char → Bool
  | [] => true
  | c :: cs =>
    (if c = '\u200D' then before.head?.any isVirama
     else if c = '\u200C' then
       before.head?.any isVirama || (joinsOnward before && joinsBack cs)
     else true) && joinersFit (c :: before) cs

end Tenancy.Url
