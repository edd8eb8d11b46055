import Tenancy.Json.Value
import Tenancy.Text.Numeral

/-!
# JSON numbers

A number is read in one pass. Its digits go into a significand of sixty-four bits for as long as they
fit; what does not fit only counts for the exponent, or not at all after the point. The double is the
significand times a power of ten, each step rounded. A number without point and exponent that fits
sixty-four bits stays whole; one that exceeds the doubles is refused.
-/

namespace Tenancy.Json
open Number Text

/-- The largest power of ten that is a double. -/
def maxPower : Nat := 308

/-- The power of ten nearest to `10 ^ k`. -/
def power (k : Nat) : Binary64 := .ofDecimal false 1 k

/-- The double `f * 10 ^ exponent`, by products and quotients of doubles; none if it is too large. -/
def scaled? (f : Binary64) (exponent : Int) : Option Binary64 :=
  if exponent.natAbs ≤ maxPower then
    if 0 ≤ exponent then
      let x := f.mulMagnitude (power exponent.natAbs)
      if x.isInfinite then none else some x
    else some (f.divMagnitude (power exponent.natAbs))
  else if f.isZero then some f
  else if 0 ≤ exponent then none
  else scaled? (f.divMagnitude (power maxPower)) (exponent + maxPower)
termination_by exponent.natAbs
decreasing_by simp only [maxPower] at *; omega

/-- Appends digits to a significand while it fits, and returns the digits that were left. -/
def absorb (significand : Nat) : List Char → Nat × List Char
  | [] => (significand, [])
  | c :: cs =>
    let next := significand * 10 + (c.toNat - '0'.toNat)
    if next ≤ maxWord64 then absorb next cs else (significand, c :: cs)

/-- The exponent limit; an exponent beyond it makes a number zero or too large. -/
def maxExponent : Nat := 2147483647

/-- An exponent part: its value, or which way it exceeds all limits. -/
inductive Exponent where
  | value (e : Int)
  | huge (negative : Bool)

/-- Reads the exponent part after its letter. -/
def readExponent? (cs : List Char) : Option (Exponent × List Char) :=
  let negative := cs.head? = some '-'
  let body := if negative ∨ cs.head? = some '+' then cs.tail else cs
  let digits := body.takeWhile Char.isDigit
  if digits = [] then none
  else
    let n := digitsValue 0 digits
    let e : Exponent :=
      if maxExponent < n then .huge negative else .value (if negative then -(n : Int) else n)
    some (e, body.dropWhile Char.isDigit)

/-- A number whose significand and exponent are known. -/
def ofParts? (negative : Bool) (significand : Nat) (base : Int) : Exponent → Option Json
  | .huge downwards =>
    if significand ≠ 0 ∧ ¬ downwards then none else some (.float (.zero negative))
  | .value e =>
    (scaled? (.ofNat significand) (base + e)).map fun x => .float (x.withSign negative)

/-- A whole number; one that fits no word is a double, and so is minus zero. -/
def ofInteger? (negative : Bool) (significand : Nat) (left : List Char) : Option Json :=
  if left ≠ [] then ofParts? negative significand left.length (.value 0)
  else if ¬ negative then some (.int significand)
  else if significand = 0 ∨ Nat.pow 2 63 < significand then
    some (.float ((Binary64.ofNat significand).withSign true))
  else some (.int (-(significand : Int)))

/-- Reads a number after its sign. -/
def readMagnitude? (negative : Bool) (cs : List Char) : Option (Json × List Char) :=
  let whole := cs.takeWhile Char.isDigit
  let rest := cs.dropWhile Char.isDigit
  if whole = [] ∨ (whole.head? = some '0' ∧ whole ≠ ['0']) then none
  else
    let (significand, left) := absorb 0 whole
    let finish (significand : Nat) (base : Int) (rest : List Char) : Option (Json × List Char) :=
      match rest with
      | e :: after =>
        if e = 'e' ∨ e = 'E' then do
          let (exponent, after) ← readExponent? after
          return (← ofParts? negative significand base exponent, after)
        else do return (← ofParts? negative significand base (.value 0), rest)
      | [] => do return (← ofParts? negative significand base (.value 0), rest)
    match rest with
    | '.' :: after =>
      let fraction := after.takeWhile Char.isDigit
      if fraction = [] then none
      else
        let (significand, unused) := absorb significand fraction
        finish significand (left.length - (fraction.length - unused.length : Nat))
          (after.dropWhile Char.isDigit)
    | c :: _ =>
      if c = 'e' ∨ c = 'E' then finish significand left.length rest
      else do return (← ofInteger? negative significand left, rest)
    | [] => do return (← ofInteger? negative significand left, [])

/-- Reads a number. -/
def readNumber? : List Char → Option (Json × List Char)
  | '-' :: cs => readMagnitude? true cs
  | cs => readMagnitude? false cs

end Tenancy.Json
