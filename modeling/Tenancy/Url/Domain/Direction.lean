import Tenancy.Text.Compose
import Tenancy.Url.Domain.DirectionTable

/-!
# Writing directions in domain names

A domain name with letters written from right to left is only sound if each of its labels reads the same
whatever stands around it: `isSteady`. `directionsAgree` asks that of all labels.
-/

namespace Tenancy.Url
open Text

/-- How a character is placed among its neighbours. -/
inductive Direction where
  | leftToRight
  | rightToLeft
  | arabicNumber
  | europeanNumber
  | neutral
  | mark
deriving DecidableEq, Repr

/-- The direction of a character. -/
def direction (c : Char) : Direction :=
  let n := c.toNat
  if isNonspacing c && !leftToRightMarks.contains n then .mark
  else if rightToLeftIntervals.contains n then .rightToLeft
  else if arabicNumberIntervals.contains n then .arabicNumber
  else if europeanNumberIntervals.contains n then .europeanNumber
  else if neutralIntervals.contains n then .neutral
  else .leftToRight

/-- Whether a label keeps to one direction: it begins with a letter and ends, marks apart, with a letter
of that direction or a number, and it does not mix the two kinds of numbers. A label of one letter
and marks always does. -/
def isSteady (label : List Char) : Bool :=
  match label.map direction with
  | [] => true
  | first :: rest =>
    let body := (rest.reverse.dropWhile (· = .mark)).reverse
    match first with
    | .leftToRight =>
      body.getLast?.all (fun d => d = .leftToRight || d = .europeanNumber) &&
        body.all (fun d => d ≠ .rightToLeft && d ≠ .arabicNumber)
    | .rightToLeft =>
      body.getLast?.all (fun d => d = .rightToLeft || d = .europeanNumber || d = .arabicNumber) &&
        body.all (· ≠ .leftToRight) &&
        !(body.contains .europeanNumber && body.contains .arabicNumber)
    | _ => false

/-- Whether labels are sound together: none is written from right to left, even in part, or all are
steady. -/
def directionsAgree (labels : List (List Char)) : Bool :=
  labels.all isSteady ||
    !labels.any (·.any fun c => direction c = .rightToLeft || direction c = .arabicNumber)

end Tenancy.Url
