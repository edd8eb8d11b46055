/-!
# Binary floating-point numbers

Doubles as their sixty-four bits, with arithmetic in whole numbers: every operation computes the
exact ratio and rounds it once, to the nearest double and to the even one of two equally near.
`Binary64.ofRatio` is that rounding; reading decimals, products and quotients go through it.
-/

namespace Tenancy.Number

/-- A double, by its bits: a sign, eleven of exponent, fifty-two of fraction. -/
structure Binary64 where
  bits : UInt64
  deriving DecidableEq, Repr

/-- What a double denotes. A finite one is `mantissa * 2 ^ exponent`, with a sign. -/
inductive Meaning where
  | nan
  | infinity (negative : Bool)
  | finite (negative : Bool) (mantissa : Nat) (exponent : Int)
  deriving DecidableEq, Repr

namespace Binary64

/-- The weight of the implicit leading bit of a fraction. -/
def leadingBit : Nat := Nat.pow 2 52

/-- The exponent of the smallest doubles. -/
def leastExponent : Int := -1074

/-- The bits of infinity, without the sign. -/
def infinityBits : Nat := 2047 * leadingBit

/-- A double from its sign and the rest of its bits. -/
def ofParts (negative : Bool) (magnitude : Nat) : Binary64 :=
  ⟨UInt64.ofNat (magnitude + if negative then Nat.pow 2 63 else 0)⟩

/-- The double that is no number. -/
def nan : Binary64 := ofParts false (infinityBits + Nat.pow 2 51)

/-- The infinite doubles. -/
def infinity (negative : Bool) : Binary64 := ofParts negative infinityBits

/-- The zeros. -/
def zero (negative : Bool) : Binary64 := ofParts negative 0

/-- What the bits denote. -/
def meaning (x : Binary64) : Meaning :=
  let n := x.bits.toNat
  let negative := Nat.pow 2 63 ≤ n
  let magnitude := n % Nat.pow 2 63
  let exponent := magnitude / leadingBit
  let fraction := magnitude % leadingBit
  if exponent = 2047 then if fraction = 0 then .infinity negative else .nan
  else if exponent = 0 then .finite negative fraction leastExponent
  else .finite negative (fraction + leadingBit) (leastExponent + (exponent - 1 : Nat))

/-- The quotient to the nearest whole number, the even one of two equally near. -/
def roundQuotient (num den : Nat) : Nat :=
  let q := num / den
  let twice := 2 * (num % den)
  if twice < den then q
  else if den < twice then q + 1
  else if q % 2 = 0 then q else q + 1

/-- The ratio `num / den` times `2 ^ shift` as a ratio of natural numbers. -/
def scale (num den : Nat) (shift : Int) : Nat × Nat :=
  match shift with
  | .ofNat k => (num * Nat.pow 2 k, den)
  | .negSucc k => (num, den * Nat.pow 2 (k + 1))

/-- The double nearest to a ratio; beyond the largest double it is infinite. -/
def ofRatio (negative : Bool) (num den : Nat) : Binary64 :=
  if num = 0 then zero negative
  else
    let guess : Int := (Nat.log2 num : Int) - (Nat.log2 den : Int)
    let (a, b) := scale num den (-guess)
    let top := if b ≤ a then guess else guess - 1
    let exponent := max leastExponent (top - 52)
    let (n, d) := scale num den (-exponent)
    let mantissa := roundQuotient n d
    let magnitude := (exponent - leastExponent).toNat * leadingBit + mantissa
    if infinityBits ≤ magnitude then infinity negative else ofParts negative magnitude

/-- The double nearest to `digits * 10 ^ exponent`. Exponents far out of range need no arithmetic. -/
def ofDecimal (negative : Bool) (digits : Nat) (exponent : Int) : Binary64 :=
  let size : Int := exponent + (Nat.toDigits 10 digits).length
  if digits = 0 ∨ size < -400 then zero negative
  else if 400 < size then infinity negative
  else match exponent with
    | .ofNat k => ofRatio negative (digits * Nat.pow 10 k) 1
    | .negSucc k => ofRatio negative digits (Nat.pow 10 (k + 1))

/-- The double nearest to a natural number. -/
def ofNat (n : Nat) : Binary64 := ofRatio false n 1

/-- The same double with the sign given. -/
def withSign (negative : Bool) (x : Binary64) : Binary64 :=
  ofParts negative (x.bits.toNat % Nat.pow 2 63)

/-- The product of two finite doubles, without the signs. -/
def mulMagnitude (x y : Binary64) : Binary64 :=
  match x.meaning, y.meaning with
  | .finite _ m p, .finite _ n q =>
    let (a, b) := scale (m * n) 1 (p + q)
    ofRatio false a b
  | _, _ => nan

/-- The quotient of two finite doubles, the second not zero, without the signs. -/
def divMagnitude (x y : Binary64) : Binary64 :=
  match x.meaning, y.meaning with
  | .finite _ m p, .finite _ n q =>
    let (a, b) := scale m n (p - q)
    ofRatio false a b
  | _, _ => nan

/-- Whether a double is infinite. -/
def isInfinite (x : Binary64) : Bool :=
  match x.meaning with
  | .infinity _ => true
  | _ => false

/-- Whether a double is a zero. -/
def isZero (x : Binary64) : Bool := x.bits.toNat % Nat.pow 2 63 = 0

end Binary64

/-! ## Single precision -/

/-- The double that a single-precision number denotes, from its thirty-two bits. -/
def widenSingle (bits : Nat) : Binary64 :=
  let negative := Nat.pow 2 31 ≤ bits
  let magnitude := bits % Nat.pow 2 31
  let exponent := magnitude / Nat.pow 2 23
  let fraction := magnitude % Nat.pow 2 23
  let (mantissa, power) : Nat × Int :=
    if exponent = 0 then (fraction, -149) else (fraction + Nat.pow 2 23, -149 + (exponent - 1 : Nat))
  if exponent = 255 then if fraction = 0 then .infinity negative else .nan
  else
    let (a, b) := Binary64.scale mantissa 1 power
    .ofRatio negative a b

/-- The bits of the single-precision number nearest to a double. -/
def narrowToSingle (x : Binary64) : Nat :=
  let sign (negative : Bool) : Nat := if negative then Nat.pow 2 31 else 0
  match x.meaning with
  | .nan => 255 * Nat.pow 2 23 + Nat.pow 2 22
  | .infinity negative => sign negative + 255 * Nat.pow 2 23
  | .finite negative 0 _ => sign negative
  | .finite negative m q =>
    let top : Int := Nat.log2 m + q
    let exponent := max (-149) (top - 23)
    let (n, d) := Binary64.scale m 1 (q - exponent)
    let magnitude := (exponent + 149).toNat * Nat.pow 2 23 + Binary64.roundQuotient n d
    sign negative + min magnitude (255 * Nat.pow 2 23)

end Tenancy.Number
