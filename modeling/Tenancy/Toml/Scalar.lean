import Tenancy.Text.Numeral
import Tenancy.Text.Utf8
import Tenancy.Toml.Value

/-!
# Scalars of TOML

Numbers, truth values, dates and times: everything that is written as one word. Digits may be parted
by single underscores. `readScalar?` reads a word, and `completesDate` says which word goes on with
a date after a space.
-/

namespace Tenancy.Toml
open Number Text

/-- Digits that single underscores may part, without the underscores. -/
def groupedDigits? (isDigit : Char → Bool) : List Char → Option (List Char)
  | [] => none
  | [d] => if isDigit d then some [d] else none
  | d :: '_' :: e :: cs =>
    if isDigit d then (groupedDigits? isDigit (e :: cs)).map (d :: ·) else none
  | d :: e :: cs =>
    if isDigit d then (groupedDigits? isDigit (e :: cs)).map (d :: ·) else none

/-- A sign in front of a number: whether it is a minus, and what follows. -/
def splitSign : List Char → Bool × List Char
  | '-' :: cs => (true, cs)
  | '+' :: cs => (false, cs)
  | cs => (false, cs)

/-- The digits of a decimal number, which starts with no zero unless it is one. -/
def decimalDigits? (cs : List Char) : Option (List Char) :=
  if cs = ['0'] then some cs
  else if cs.head? = some '0' then none
  else groupedDigits? Char.isDigit cs

/-- A number in another base, without a sign. -/
def basedInteger? (base : Nat) (cs : List Char) : Option Int := do
  let isDigit (c : Char) : Bool := (hexValue? c).any (· < base)
  let digits ← groupedDigits? isDigit cs
  let n := digits.foldl (fun n c => n * base + (hexValue? c).getD 0) 0
  if (n : Int) ≤ maxInt64 then some n else none

/-- A whole number. -/
def integer? (cs : List Char) : Option Int :=
  match cs with
  | '0' :: 'x' :: digits => basedInteger? 16 digits
  | '0' :: 'o' :: digits => basedInteger? 8 digits
  | '0' :: 'b' :: digits => basedInteger? 2 digits
  | _ => do
    let (negative, digits) := splitSign cs
    let n : Int := digitsValue 0 (← decimalDigits? digits)
    let n := if negative then -n else n
    if minInt64 ≤ n ∧ n ≤ maxInt64 then some n else none

/-- A number with a point or an exponent, or one of the special numbers. None is larger than all
doubles. -/
def float? (cs : List Char) : Option Binary64 := do
  let (negative, body) := splitSign cs
  if body = "inf".toList then return .infinity negative
  if body = "nan".toList then return .nan
  let isMark (c : Char) : Bool := c = '.' || c = 'e' || c = 'E'
  let whole ← decimalDigits? (body.takeWhile (!isMark ·))
  let tail := body.dropWhile (!isMark ·)
  let (fraction, tail) ←
    match tail with
    | '.' :: cs =>
      let isExponent (c : Char) : Bool := c = 'e' || c = 'E'
      (groupedDigits? Char.isDigit (cs.takeWhile (!isExponent ·))).map
        fun digits => (digits, cs.dropWhile (!isExponent ·))
    | _ => some ([], tail)
  let exponent : Int ←
    match tail with
    | [] => if fraction = [] then none else some 0
    | _ :: cs =>
      let (minus, digits) := splitSign cs
      (groupedDigits? Char.isDigit digits).map fun digits =>
        if minus then -(digitsValue 0 digits : Int) else digitsValue 0 digits
  let x := Binary64.ofDecimal negative (digitsValue 0 (whole ++ fraction)) (exponent - fraction.length)
  if x = .infinity false then none else some x

/-- The number that `n` digits spell. -/
def fixedDigits? (n : Nat) (cs : List Char) : Option Nat :=
  if cs.length = n then readDigits? cs else none

/-- How many days a month has. -/
def daysInMonth (year month : Nat) : Nat :=
  if month = 2 then if year % 4 = 0 ∧ (year % 100 ≠ 0 ∨ year % 400 = 0) then 29 else 28
  else if month ∈ [4, 6, 9, 11] then 30 else 31

/-- Whether a text is a date: year, month and day. -/
def isDate : List Char → Bool
  | [a, b, c, d, '-', e, f, '-', g, h] =>
    match fixedDigits? 4 [a, b, c, d], fixedDigits? 2 [e, f], fixedDigits? 2 [g, h] with
    | some year, some month, some day =>
      (1 ≤ month ∧ month ≤ 12) && (1 ≤ day ∧ day ≤ daysInMonth year month)
    | _, _, _ => false
  | _ => false

/-- Whether a text is an hour and a minute. -/
def isHourMinute : List Char → Bool
  | [a, b, ':', c, d] =>
    (fixedDigits? 2 [a, b]).any (· ≤ 23) && (fixedDigits? 2 [c, d]).any (· ≤ 59)
  | _ => false

/-- Whether a text is a time of day, to the second or finer. -/
def isTimeOfDay (cs : List Char) : Bool :=
  match cs.drop 5 with
  | ':' :: a :: b :: fraction =>
    isHourMinute (cs.take 5) && (fixedDigits? 2 [a, b]).any (· ≤ 60) &&
      match fraction with
      | [] => true
      | '.' :: digits => (readDigits? digits).isSome
      | _ => false
  | _ => false

/-- Whether a text is a time of day, perhaps with its distance from universal time. -/
def isTimeWithOffset (cs : List Char) : Bool :=
  let isOffset (c : Char) : Bool := c = 'Z' || c = 'z' || c = '+' || c = '-'
  isTimeOfDay (cs.takeWhile (!isOffset ·)) &&
    match cs.dropWhile (!isOffset ·) with
    | [] => true
    | ['Z'] | ['z'] => true
    | sign :: distance => (sign = '+' || sign = '-') && isHourMinute distance

/-- Whether a text is a date, a time of day, or both with a `T` between them. -/
def isTime (cs : List Char) : Bool :=
  isDate cs || isTimeOfDay cs ||
    (isDate (cs.take 10) &&
      match cs.drop 10 with
      | mark :: rest => (mark = 'T' || mark = 't') && isTimeWithOffset rest
      | [] => false)

/-- Whether `next`, after `word` and a space, is the time of day of a date. -/
def completesDate (word next : List Char) : Bool := isDate word && isTimeWithOffset next

/-- Reads a word. -/
def readScalar? (word : List Char) : Option Toml :=
  if word = "true".toList then some (.bool true)
  else if word = "false".toList then some (.bool false)
  else if isTime word then some (.time (String.ofList word))
  else ((integer? word).map .int) <|> ((float? word).map .float)

end Tenancy.Toml
