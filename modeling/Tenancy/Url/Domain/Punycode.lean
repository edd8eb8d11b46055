/-!
# Letters of all scripts in the letters and digits of ASCII

A text is written as its ASCII characters, a hyphen, and a row of numbers: each says how many places
to move on, counting all places of the text for one code point before those for the next, to where the
next character of the rest goes. Numbers are written with digits of changing weight, smallest first;
how soon a number ends depends on the size of the numbers before it.
-/

namespace Tenancy.Url.Punycode

/-- The letter or digit for a number below 36. -/
def digitChar (d : Nat) : Char := Char.ofNat (if d < 26 then 0x61 + d else 0x16 + d)

/-- The number that a letter of either case or a digit stands for. -/
def digit? (c : Char) : Option Nat :=
  let n := c.toNat
  if 0x61 ≤ n ∧ n ≤ 0x7A then some (n - 0x61)
  else if 0x41 ≤ n ∧ n ≤ 0x5A then some (n - 0x41)
  else if 0x30 ≤ n ∧ n ≤ 0x39 then some (n - 0x16)
  else none

/-- The least digit after which a number goes on, at the place with weight index `k`. -/
def threshold (bias k : Nat) : Nat := max 1 (min 26 (k - bias))

/-- A threshold is at least one. -/
theorem one_le_threshold (bias k : Nat) : 1 ≤ threshold bias k := Nat.le_max_left ..

/-- Divides a number by 35 until it is small; each division counts 36, and what is left at most 35. -/
def settle (n steps : Nat) : Nat :=
  if 455 < n then settle (n / 35) (steps + 36) else steps + 36 * n / (n + 38)
termination_by n
decreasing_by omega

/-- The bias after a number, with the count of characters placed so far. -/
def adapt (number count : Nat) (isFirst : Bool) : Nat :=
  let n := number / (if isFirst then 700 else 2)
  settle (n + n / count) 0

/-- The digits of a number. -/
def digits (bias k n : Nat) : List Char :=
  let t := threshold bias k
  if n < t then [digitChar n]
  else digitChar (t + (n - t) % (36 - t)) :: digits bias (k + 36) ((n - t) / (36 - t))
termination_by n
decreasing_by
  have := one_le_threshold bias k
  exact Nat.lt_of_le_of_lt (Nat.div_le_self ..) (by omega)

/-- The state of writing: what is written, how many places were passed since the last character placed,
the bias, and how many characters are placed. -/
structure Writing where
  text : List Char
  passed : Nat
  bias : Nat
  count : Nat

/-- Passes one place of the text while characters with code point `n` are placed. -/
def Writing.visit (n basics : Nat) (w : Writing) (c : Char) : Writing :=
  if c.toNat < n then { w with passed := w.passed + 1 }
  else if c.toNat = n then
    { text := w.text ++ digits w.bias 36 w.passed
      passed := 0
      bias := adapt w.passed (w.count + 1) (w.count = basics)
      count := w.count + 1 }
  else w

/-- Places the characters with the given code points, in increasing order, where all code points
below `least` are placed. -/
def placeAll (cs : List Char) (basics : Nat) (least : Nat) (w : Writing) : List Nat → List Char
  | [] => w.text
  | n :: ns =>
    let start := { w with passed := w.passed + (n - least) * (w.count + 1) }
    let placed := cs.foldl (Writing.visit n basics) start
    placeAll cs basics (n + 1) { placed with passed := placed.passed + 1 } ns

/-- A text in letters and digits. -/
def encode (cs : List Char) : List Char :=
  let basic := cs.filter (·.toNat < 0x80)
  let points := ((cs.filter (0x80 ≤ ·.toNat)).map Char.toNat).eraseDups.mergeSort
  let start := if basic = [] then [] else basic ++ ['-']
  placeAll cs basic.length 0x80 ⟨start, 0, 72, basic.length⟩ points

/-- The state of reading: the text so far, the code point of the last character placed and the place after
it, the bias, and of the number at hand its value, counted on from that place, the weight of the
next digit and its index. -/
structure Reading where
  text : List Char
  point : Nat := 0x80
  place : Nat := 0
  bias : Nat := 72
  value : Nat := 0
  weight : Nat := 1
  index : Nat := 36

/-- Places the next character, at the end of a number. -/
def Reading.insert? (r : Reading) : Option Reading :=
  let count := r.text.length + 1
  let point := r.point + r.value / count
  let place := r.value % count
  if point.isValidChar then
    some {
      text := r.text.take place ++ Char.ofNat point :: r.text.drop place
      point := point
      place := place + 1
      bias := adapt (r.value - r.place) count (r.place = 0)
      value := place + 1 }
  else none

/-- Reads one digit. Values and weights stay below 2^32. -/
def Reading.step? (r : Reading) (c : Char) : Option Reading := do
  let d ← digit? c
  let r := { r with value := r.value + d * r.weight }
  let t := threshold r.bias r.index
  if 0x100000000 ≤ r.value then none
  else if d < t then r.insert?
  else if 0x100000000 ≤ r.weight * (36 - t) then none
  else some { r with weight := r.weight * (36 - t), index := r.index + 36 }

/-- The text that letters and digits stand for, if the last number is complete. -/
def decode? (cs : List Char) : Option (List Char) := do
  let tail := (cs.reverse.takeWhile (· ≠ '-')).reverse
  let basic := cs.take (cs.length - tail.length - 1)
  let numbers := if basic = [] then cs else tail
  let r ← numbers.foldlM Reading.step? { text := basic }
  if r.index = 36 then some r.text else none

end Tenancy.Url.Punycode
