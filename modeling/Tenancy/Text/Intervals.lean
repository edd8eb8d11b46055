/-!
# Tables of code points

A table of code points is a sorted list of closed intervals; a map on code points is a sorted list
of shifted runs. `Intervals.contains` and `Shifts.apply` read them.
-/

namespace Tenancy.Text

/-- Disjoint closed intervals of code points, in increasing order. -/
abbrev Intervals := List (Nat × Nat)

/-- Whether `n` lies in one of the intervals; the search ends at the first that starts after `n`. -/
def Intervals.contains : Intervals → Nat → Bool
  | [], _ => false
  | (lo, hi) :: rest, n => if n < lo then false else n ≤ hi || contains rest n

/-- Runs `(first, last, step, shift)`, disjoint and in increasing order: every `step`-th code point
from `first` to `last` moves by `shift`. -/
abbrev Shifts := List (Nat × Nat × Nat × Int)

/-- The image of `n`, if the table moves it. -/
def Shifts.image? : Shifts → Nat → Option Nat
  | [], _ => none
  | (first, last, step, shift) :: rest, n =>
    if n < first then none
    else if n ≤ last then
      if (n - first) % step = 0 then some (n + shift).toNat else none
    else image? rest n

end Tenancy.Text
