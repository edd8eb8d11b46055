import Mathlib.Algebra.Group.Int.Defs
import Mathlib.Algebra.Group.Nat.Defs
import Mathlib.Data.List.TakeWhile
import Tenancy.Json.Writer
import Tenancy.Proofs.Text.Numerals

/-!
# Documents at the server

The documents that the server keeps: like JSON, with numbers that are decimal, as they were written
(`Decimal`), and within the bounds of the server's numbers. `Jsonb.value?` leads down a document by the
elements of a path, which are keys of objects and places in arrays. A number is printed as a whole number
exactly if it has no digits behind the point (`Decimal.text_eq_toString_iff`), and what is printed of a whole
number is read as that number (`Decimal.read?_toString`).
-/

namespace Tenancy
open Text

/-! ## Numbers -/

/-- A decimal number: so many units of the last of `scale` digits behind the point. -/
structure Decimal where
  unscaled : Int
  scale : Nat
  deriving DecidableEq, Repr

namespace Decimal

/-- How many digits the server's numbers may have in front of the point. -/
def maxDigits : Nat := 131072

/-- How many digits they may have behind it. -/
def maxScale : Nat := 16383

/-- Whether a number is within the bounds of the server's numbers. -/
def Fits (d : Decimal) : Prop := d.unscaled.natAbs < 10 ^ (maxDigits + d.scale) ∧ d.scale ≤ maxScale

instance (d : Decimal) : Decidable d.Fits := inferInstanceAs (Decidable (_ ∧ _))

/-- The digits of a number, at least one of them in front of the point. -/
def digits (d : Decimal) : List Char :=
  let digits := Nat.toDigits 10 d.unscaled.natAbs
  List.replicate (d.scale + 1 - digits.length) '0' ++ digits

/-- The characters of a number as it is printed. -/
def chars (d : Decimal) : List Char :=
  let whole := d.digits.length - d.scale
  (if d.unscaled < 0 then ['-'] else []) ++ d.digits.take whole ++
    if d.scale = 0 then [] else '.' :: d.digits.drop whole

/-- A number as it is printed. -/
def text (d : Decimal) : String := String.ofList d.chars

/-- The number that digits with a point among them, or without one, spell. -/
def unsigned? (cs : List Char) : Option Decimal :=
  let whole := cs.takeWhile Char.isDigit
  match cs.dropWhile Char.isDigit with
  | [] => (readDigits? whole).map fun n : Nat => Decimal.mk n 0
  | '.' :: fraction => (readDigits? (whole ++ fraction)).map fun n : Nat => Decimal.mk n fraction.length
  | _ => none

/-- The negative of a number. -/
def neg (d : Decimal) : Decimal := ⟨-d.unscaled, d.scale⟩

/-- The number that a text spells. -/
def read? (cs : List Char) : Option Decimal :=
  match cs with
  | '-' :: cs => (unsigned? cs).map neg
  | cs => unsigned? cs

/-- Whether a number is at most another one. -/
def le (a b : Decimal) : Bool := a.unscaled * 10 ^ b.scale ≤ b.unscaled * 10 ^ a.scale

/-- A whole number. -/
def ofInt (n : Int) : Decimal := ⟨n, 0⟩

/-- Whole numbers are compared as numbers. -/
@[simp]
lemma le_ofInt {m n : Int} : (ofInt m).le (ofInt n) = decide (m ≤ n) := by
  simp [le, ofInt]

/-- The opposite of a whole number is a whole number. -/
@[simp]
lemma neg_ofInt (n : Int) : (ofInt n).neg = ofInt (-n) := rfl

/-- Whole numbers of sixty-four bits are within the bounds of the server's numbers. -/
lemma fits_ofInt {n : Int} (low : minInt64 ≤ n) (high : n ≤ maxInt64) : (ofInt n).Fits := by
  have digits : n.natAbs < 10 ^ 19 := by
    unfold minInt64 at low
    unfold maxInt64 at high
    omega
  have more : 19 ≤ maxDigits + 0 := by decide
  exact ⟨digits.trans_le (Nat.pow_le_pow_right (by decide) more), Nat.zero_le _⟩

/-- Behind the digits of a whole number stands nothing. -/
lemma chars_ofInt (n : Int) : (ofInt n).chars = (toString n).toList := by
  have some : 1 ≤ (Nat.toDigits 10 n.natAbs).length := List.length_pos_iff.2 Nat.toDigits_ne_nil
  have digits : (ofInt n).digits = Nat.toDigits 10 n.natAbs := by
    change List.replicate (0 + 1 - (Nat.toDigits 10 n.natAbs).length) '0' ++ _ = _
    rw [show 0 + 1 - (Nat.toDigits 10 n.natAbs).length = 0 by omega]
    rfl
  rw [chars, digits, toList_toString]
  change _ ++ List.take (_ - 0) _ ++ [] = _
  rw [Nat.sub_zero, List.take_length, List.append_nil]
  rfl

/-- The numeral of a number is read as the number. -/
lemma unsigned?_toDigits (n : Nat) : unsigned? (Nat.toDigits 10 n) = some (ofInt n) := by
  have all : ∀ c ∈ Nat.toDigits 10 n, c.isDigit := List.all_eq_true.1 (all_isDigit_toDigits n)
  rw [unsigned?, List.takeWhile_eq_self_iff.2 all, List.dropWhile_eq_nil_iff.2 all, readDigits?_toDigits]
  rfl

/-- What is printed of a whole number is read as that number. -/
theorem read?_toString (n : Int) : read? (toString n).toList = some (ofInt n) := by
  rw [toList_toString]
  by_cases negative : n < 0
  · rw [if_pos negative]
    change (unsigned? (Nat.toDigits 10 n.natAbs)).map neg = _
    rw [unsigned?_toDigits, Option.map_some, neg_ofInt]
    congr 2
    omega
  · rw [if_neg negative, List.nil_append]
    have unmarked : (Nat.toDigits 10 n.natAbs).head? ≠ some '-' := by
      intro mark
      have digit := List.all_eq_true.1 (all_isDigit_toDigits n.natAbs) '-' (List.mem_of_mem_head? mark)
      cases digit
    unfold read?
    split
    · next eq => exact absurd (congrArg List.head? eq) unmarked
    · rw [unsigned?_toDigits]
      congr 2
      omega

/-- Whole numbers have numerals of their own. -/
lemma toString_injective {m n : Int} (h : (toString m).toList = (toString n).toList) : m = n := by
  have read := read?_toString m
  rw [h, read?_toString] at read
  cases read
  rfl

/-- A number with digits behind the point is written with a point. -/
lemma point_mem_chars {d : Decimal} (fraction : d.scale ≠ 0) : '.' ∈ d.chars := by
  rw [chars, if_neg fraction]
  simp

/-- A whole number is written without one. -/
lemma point_not_mem_toString (n : Int) : '.' ∉ (toString n).toList := by
  rw [toList_toString, List.mem_append]
  rintro (sign | digit)
  · split at sign
    · simp at sign
    · cases sign
  · cases List.all_eq_true.1 (all_isDigit_toDigits n.natAbs) '.' digit

/-- A number is printed as a whole number exactly if it has no digits behind the point. -/
theorem text_eq_toString_iff {d : Decimal} {n : Int} : d.text = toString n ↔ d = ofInt n := by
  constructor
  · intro h
    have chars : d.chars = (toString n).toList := by rw [← h, text, String.toList_ofList]
    by_cases whole : d.scale = 0
    · obtain ⟨m, scale⟩ := d
      cases whole
      exact congrArg ofInt (toString_injective ((chars_ofInt m).symm.trans chars))
    · have point := point_mem_chars whole
      rw [chars] at point
      exact absurd point (point_not_mem_toString n)
  · rintro rfl
    rw [text, chars_ofInt, String.ofList_toList]

end Decimal

/-! ## Documents -/

/-- A document as the server keeps it. -/
inductive Jsonb where
  | null
  | boolean (b : Bool)
  | number (x : { d : Decimal // d.Fits })
  | string (s : String)
  | array (items : List Jsonb)
  | object (members : List (String × Jsonb))

namespace Jsonb

mutual

/-- The characters of a document as it is printed. -/
def chars : Jsonb → List Char
  | .null => "null".toList
  | .boolean b => (toString b).toList
  | .number x => x.1.chars
  | .string s => Json.stringText s
  | .array items => '[' :: itemChars items
  | .object members => '{' :: memberChars members

/-- The items of an array and the closing bracket. -/
def itemChars : List Jsonb → List Char
  | [] => [']']
  | [d] => chars d ++ [']']
  | d :: ds => chars d ++ ',' :: ' ' :: itemChars ds

/-- The members of an object and the closing brace. -/
def memberChars : List (String × Jsonb) → List Char
  | [] => ['}']
  | [(k, d)] => Json.stringText k ++ ':' :: ' ' :: chars d ++ ['}']
  | (k, d) :: ms => Json.stringText k ++ ':' :: ' ' :: chars d ++ ',' :: ' ' :: memberChars ms

end

/-- The text of a value: of a string what it says, of others how they are printed. -/
def text : Jsonb → String
  | .string s => s
  | d => String.ofList d.chars

/-- The name of the kind of a value. -/
def kind : Jsonb → String
  | .null => "null"
  | .boolean _ => "boolean"
  | .number _ => "number"
  | .string _ => "string"
  | .array _ => "array"
  | .object _ => "object"

/-- The place in an array that an element of a path names; the last place is also called `-1`. -/
def place? (length : Nat) (element : String) : Option Nat :=
  (readInteger? (-2147483648) 2147483647 element.toList).bind fun i =>
    let place := if i < 0 then i + length else i
    if 0 ≤ place ∧ place < length then some place.toNat else none

/-- What stands in a document under an element of a path. -/
def child? : Jsonb → String → Option Jsonb
  | .object members, element => members.lookup element
  | .array items, element => (place? items.length element).bind (items[·]?)
  | _, _ => none

/-- The value at a path. -/
def value? (d : Jsonb) (elements : List String) : Option Jsonb := elements.foldlM child? d

/-- The value at a path whose elements may be absent; an absent one leads nowhere. -/
def at? (d : Jsonb) (elements : List (Option String)) : Option Jsonb := (elements.mapM id).bind d.value?

end Jsonb
end Tenancy
