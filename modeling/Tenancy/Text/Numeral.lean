/-!
# Decimal numerals

Reading whole numbers that must fit a range: an optional sign, then one or more ASCII digits and
nothing else.
-/

namespace Tenancy.Text

/-- The number a digit string denotes, read after the digits that gave `acc`. -/
def digitsValue (acc : Nat) : List Char → Nat
  | [] => acc
  | c :: cs => digitsValue (acc * 10 + (c.toNat - '0'.toNat)) cs

/-- The value of a non-empty string of ASCII digits. -/
def readDigits? (cs : List Char) : Option Nat :=
  if cs ≠ [] ∧ cs.all Char.isDigit then some (digitsValue 0 cs) else none

/-- A natural number up to `limit`; a plus sign may stand in front. -/
def readNatural? (limit : Nat) (cs : List Char) : Option Nat :=
  (readDigits? (if cs.head? = some '+' then cs.tail else cs)).filter (· ≤ limit)

/-- An integer from `lo` to `hi`; a sign may stand in front. -/
def readInteger? (lo hi : Int) (cs : List Char) : Option Int :=
  let value : Option Int :=
    if cs.head? = some '-' then (readDigits? cs.tail).map fun n => -(n : Int)
    else (readDigits? (if cs.head? = some '+' then cs.tail else cs)).map fun n => (n : Int)
  value.filter fun n => lo ≤ n ∧ n ≤ hi

/-- The largest number of sixteen bits. -/
def maxWord16 : Nat := 65535

/-- The largest number of sixty-four bits. -/
def maxWord64 : Nat := 18446744073709551615

/-- The least signed number of sixty-four bits. -/
def minInt64 : Int := -9223372036854775808

/-- The greatest signed number of sixty-four bits. -/
def maxInt64 : Int := 9223372036854775807

end Tenancy.Text
