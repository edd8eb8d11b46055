import Tenancy.Number.Binary64

/-!
# Shortest decimals

The text of a double is the decimal with the fewest digits that reads back as the same double, and of
those the nearest. `shortest` finds it by exact arithmetic: on the grid of one digit, then of two,
and so on, it tries the two points on either side of the value. `plainText` writes it without an
exponent, `compactText` with one where the number is very large or very small; they differ also in
the choice between two decimals that are equally near.
-/

namespace Tenancy.Number

/-- The number `digits * 10 ^ exponent`. -/
structure Decimal where
  digits : Nat
  exponent : Int
  deriving DecidableEq, Repr

/-- Which of two neighbours on a grid is taken when they are equally near. -/
inductive Tie where
  | larger
  | even
  deriving DecidableEq, Repr

/-- How many decimal digits a positive number has. -/
def digitCount (n : Nat) : Nat := (Nat.toDigits 10 n).length

/-- The numbers that read back as one double: from `low / den` to `high / den`, with the ends where
`closed` holds; the double itself is `value / den`. -/
structure Neighbourhood where
  low : Nat
  value : Nat
  high : Nat
  den : Nat
  closed : Bool

/-- The numbers that read back as `m * 2 ^ q`. Below a power of two the next double is half as far
away as above it. -/
def neighbourhood (m : Nat) (q : Int) : Neighbourhood :=
  let (v, d) := Binary64.scale m 1 q
  let (u, _) := Binary64.scale 1 1 q
  let below := if m = Binary64.leadingBit ∧ q ≠ Binary64.leastExponent then u else 2 * u
  ⟨4 * v - below, 4 * v, 4 * v + 2 * u, 4 * d, m % 2 = 0⟩

/-- Whether `num / den` is one of the numbers. -/
def Neighbourhood.contains (h : Neighbourhood) (num den : Nat) : Bool :=
  let x := num * h.den
  if h.closed then h.low * den ≤ x && x ≤ h.high * den else h.low * den < x && x < h.high * den

/-- The position `p` of the decimal point: the value lies between `10 ^ (p - 1)` and `10 ^ p`. -/
def Neighbourhood.point (h : Neighbourhood) : Int :=
  if h.den ≤ h.value then digitCount (h.value / h.den)
  else 1 - (digitCount ((h.den - 1) / h.value) : Int)

/-- The power `10 ^ e` as a ratio. -/
def tenTo (e : Int) : Nat × Nat :=
  match e with
  | .ofNat k => (Nat.pow 10 k, 1)
  | .negSucc k => (1, Nat.pow 10 (k + 1))

/-- The point of the grid `10 ^ e` that reads back as the double and is nearest to it. -/
def Neighbourhood.onGrid? (h : Neighbourhood) (tie : Tie) (e : Int) : Option Decimal :=
  let (a, b) := tenTo e
  let k := h.value * b / (h.den * a)
  let below := h.contains (k * a) b
  let above := h.contains ((k + 1) * a) b
  let remainder := h.value * b - k * (h.den * a)
  let nearer := 2 * remainder < h.den * a || (2 * remainder = h.den * a && tie = .even && k % 2 = 0)
  if below && (!above || nearer) then some ⟨k, e⟩
  else if above then some ⟨k + 1, e⟩
  else none

/-- The first grid, from the coarsest of those listed, with a point that reads back. -/
def Neighbourhood.firstGrid (h : Neighbourhood) (tie : Tie) (point : Int) : List Nat → Decimal
  | [] => ⟨h.value / h.den, 0⟩
  | n :: ns => (h.onGrid? tie (point - n)).getD (h.firstGrid tie point ns)

/-- The same number with no zero at the end of its digits. -/
def Decimal.trimmed (d : Decimal) : Decimal :=
  let zeros := (Nat.toDigits 10 d.digits).reverse.takeWhile (· = '0')
  ⟨d.digits / Nat.pow 10 zeros.length, d.exponent + zeros.length⟩

/-- The shortest decimal of `m * 2 ^ q`, which is not zero. -/
def shortest (tie : Tie) (m : Nat) (q : Int) : Decimal :=
  let h := neighbourhood m q
  (h.firstGrid tie h.point ((List.range 17).map (· + 1))).trimmed

/-- Digits with a point after the first `point` of them, filled up by zeros on either side; nothing
after the point if there is nothing to write there. -/
def positional (digits : List Char) (point : Int) : List Char :=
  let n : Int := digits.length
  if point ≤ 0 then '0' :: '.' :: List.replicate (-point).toNat '0' ++ digits
  else if n ≤ point then digits ++ List.replicate (point - n).toNat '0'
  else digits.take point.toNat ++ '.' :: digits.drop point.toNat

/-- A double without exponent: `0.1`, `100`, `-0`, `NaN`, `inf`. -/
def plainText (x : Binary64) : String :=
  match x.meaning with
  | .nan => "NaN"
  | .infinity negative => if negative then "-inf" else "inf"
  | .finite negative m q =>
    let sign := if negative then ['-'] else []
    if m = 0 then String.ofList (sign ++ ['0'])
    else
      let d := shortest .larger m q
      let digits := Nat.toDigits 10 d.digits
      String.ofList (sign ++ positional digits (digits.length + d.exponent))

/-- A finite double in a data format: whole numbers keep `.0`, and an exponent stands where the first
digit counts `10 ^ 16` or more, or less than `10 ^ -5`. -/
def compactText (x : Binary64) : String :=
  match x.meaning with
  | .finite negative m q =>
    let sign := if negative then ['-'] else []
    if m = 0 then String.ofList (sign ++ ['0', '.', '0'])
    else
      let d := shortest .even m q
      let digits := Nat.toDigits 10 d.digits
      let point : Int := digits.length + d.exponent
      let lead := point - 1
      if 16 ≤ lead ∨ lead < -5 then
        let fraction := if digits.length = 1 then [] else '.' :: digits.tail
        let mark := if lead < 0 then ['e', '-'] else ['e', '+']
        String.ofList (sign ++ digits.take 1 ++ fraction ++ mark ++ Nat.toDigits 10 lead.natAbs)
      else
        let whole := if digits.length ≤ point then ['.', '0'] else []
        String.ofList (sign ++ positional digits point ++ whole)
  | _ => "null"

/-- Reads a double: an optional sign, digits with or without a point and an exponent, or one of the
words `nan` and `inf`. -/
def readBinary64? (text : String) : Option Binary64 :=
  let negative := text.toList.head? = some '-'
  let body := if negative ∨ text.toList.head? = some '+' then text.toList.tail else text.toList
  let word := body.map Char.toLower
  if word = "nan".toList then some .nan
  else if word = "inf".toList ∨ word = "infinity".toList then some (.infinity negative)
  else
    let whole := body.takeWhile Char.isDigit
    let afterWhole := body.dropWhile Char.isDigit
    let (fraction, afterFraction) :=
      match afterWhole with
      | '.' :: r => (r.takeWhile Char.isDigit, r.dropWhile Char.isDigit)
      | r => ([], r)
    let value (digits : List Char) : Nat := digits.foldl (fun n c => n * 10 + (c.toNat - '0'.toNat)) 0
    let exponent : Option Int :=
      match afterFraction with
      | [] => some 0
      | e :: r =>
        if e = 'e' ∨ e = 'E' then
          let minus := r.head? = some '-'
          let digits := if minus ∨ r.head? = some '+' then r.tail else r
          if digits ≠ [] ∧ digits.all Char.isDigit then
            some (if minus then -(value digits : Int) else value digits)
          else none
        else none
    if whole ++ fraction = [] then none
    else exponent.map fun e => .ofDecimal negative (value (whole ++ fraction)) (e - fraction.length)

end Tenancy.Number
