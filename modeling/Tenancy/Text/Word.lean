import Tenancy.Text.WordTable

/-!
# Words, digits and blanks

The character classes that decide where a word of a statement begins and ends, over all of Unicode,
the trimming of white space, and the search for a text in another. `boundary` is the place between a
word character and anything else.
-/

namespace Tenancy.Text

/-- Whether a character can stand in a word. -/
def isWord (c : Char) : Bool := wordIntervals.contains c.toNat

/-- Whether a character is a decimal digit of some script. -/
def isDecimal (c : Char) : Bool := digitIntervals.contains c.toNat

/-- The code points of white space. -/
def blankIntervals : Intervals := [
  (0x9, 0xD), (0x20, 0x20), (0x85, 0x85), (0xA0, 0xA0), (0x1680, 0x1680), (0x2000, 0x200A),
  (0x2028, 0x2029), (0x202F, 0x202F), (0x205F, 0x205F), (0x3000, 0x3000)]

/-- Whether a character is white space. -/
def isBlank (c : Char) : Bool := blankIntervals.contains c.toNat

/-- A word begins or ends between `before` and `after`; the ends of the text count as no word. -/
def boundary (before after : Option Char) : Bool := before.any isWord != after.any isWord

/-- The text without the white space in front of it. -/
def trimStart (cs : List Char) : List Char := cs.dropWhile isBlank

/-- The text without the white space around it. -/
def trim (cs : List Char) : List Char := (trimStart (trimStart cs).reverse).reverse

/-- Whether one text stands in another. -/
def standsIn (part : List Char) : List Char → Bool
  | [] => part.isEmpty
  | c :: cs => part.isPrefixOf (c :: cs) || standsIn part cs

end Tenancy.Text
