import Mathlib.Tactic.Lemma
import Tenancy.Text.Numeral

/-!
# Numerals

What texts are read as numbers, and as which. An integer is read where the text is digits with a sign in front
or without (`readInteger?_eq_some`), a natural number where there is no minus sign (`readNatural?_eq_some`).
The digits that a number is written with are read as that number (`readDigits?_toDigits`).
-/

namespace Tenancy.Text

/-! ## Digits -/

/-- A text of digits is read as its value. -/
lemma readDigits?_eq_some {cs : List Char} {n : Nat} :
    readDigits? cs = some n ↔ (cs ≠ [] ∧ cs.all Char.isDigit) ∧ digitsValue 0 cs = n := by
  unfold readDigits?
  split
  · next digits => rw [Option.some.injEq, and_iff_right digits]
  · next other => simp only [reduceCtorEq, other, false_and]

/-- The value is the one that the digits have. -/
lemma digitsValue_eq (cs : List Char) : ∀ acc, digitsValue acc cs = Nat.ofDigitChars 10 cs acc := by
  induction cs with
  | nil => exact fun _ => rfl
  | cons c cs ih =>
    intro acc
    rw [Nat.ofDigitChars_cons, Nat.mul_comm 10 acc]
    exact ih _

/-- The numeral of a number has digits alone. -/
lemma all_isDigit_toDigits (n : Nat) : (Nat.toDigits 10 n).all Char.isDigit :=
  List.all_eq_true.2 fun _ mem => Nat.isDigit_of_mem_toDigits (by decide) (by decide) mem

/-- The digits of a number denote it. -/
lemma readDigits?_toDigits (n : Nat) : readDigits? (Nat.toDigits 10 n) = some n := by
  apply readDigits?_eq_some.2
  constructor
  · exact ⟨Nat.toDigits_ne_nil, all_isDigit_toDigits n⟩
  · rw [digitsValue_eq]
    exact Nat.ofDigitChars_toDigits (by decide) (by decide)

/-- A digit is no sign. -/
lemma head?_ne_of_digits {digits : List Char} (all : digits.all Char.isDigit) {c : Char}
    (sign : c.isDigit = false) : digits.head? ≠ some c := by
  intro head
  obtain ⟨rest, rfl⟩ := List.head?_eq_some_iff.1 head
  rw [List.all_cons, sign] at all
  cases all

/-! ## Integers -/

/-- Whether a text is a whole number: digits, with a sign in front or without. -/
inductive Numeral : List Char → Int → Prop where
  | plain {digits : List Char} (some : digits ≠ []) (all : digits.all Char.isDigit) :
    Numeral digits (digitsValue 0 digits)
  | plus {digits : List Char} (some : digits ≠ []) (all : digits.all Char.isDigit) :
    Numeral ('+' :: digits) (digitsValue 0 digits)
  | minus {digits : List Char} (some : digits ≠ []) (all : digits.all Char.isDigit) :
    Numeral ('-' :: digits) (-(digitsValue 0 digits : Int))

/-- What is made of a number that is read comes from one. -/
lemma map_eq_some_lift {x : Option Nat} {f : Int → Int} {n : Int} :
    (x >>= fun m => pure (m : Int)).map f = some n ↔ ∃ m, x = some m ∧ f m = n := by
  cases x with
  | none => simp
  | some m => simp

/-- An integer is read where the text is one within the bounds. -/
theorem readInteger?_eq_some {lo hi : Int} {cs : List Char} {n : Int} :
    readInteger? lo hi cs = some n ↔ Numeral cs n ∧ lo ≤ n ∧ n ≤ hi := by
  unfold readInteger?
  rw [Option.filter_eq_some_iff, decide_eq_true_iff, and_congr_left_iff]
  intro _
  constructor
  · intro read
    split at read
    · next minus =>
      obtain ⟨digits, rfl⟩ := List.head?_eq_some_iff.1 minus
      obtain ⟨m, found, rfl⟩ := map_eq_some_lift.1 read
      obtain ⟨⟨some, all⟩, rfl⟩ := readDigits?_eq_some.1 found
      exact .minus some all
    · obtain ⟨m, found, rfl⟩ := map_eq_some_lift.1 read
      split at found
      · next plus =>
        obtain ⟨digits, rfl⟩ := List.head?_eq_some_iff.1 plus
        obtain ⟨⟨some, all⟩, rfl⟩ := readDigits?_eq_some.1 found
        exact .plus some all
      · obtain ⟨⟨some, all⟩, rfl⟩ := readDigits?_eq_some.1 found
        exact .plain some all
  · intro numeral
    cases numeral with
    | plain some all =>
      rw [if_neg (head?_ne_of_digits all (by decide)), if_neg (head?_ne_of_digits all (by decide))]
      exact map_eq_some_lift.2 ⟨_, readDigits?_eq_some.2 ⟨⟨some, all⟩, rfl⟩, rfl⟩
    | plus some all =>
      exact map_eq_some_lift.2 ⟨_, readDigits?_eq_some.2 ⟨⟨some, all⟩, rfl⟩, rfl⟩
    | minus some all =>
      exact map_eq_some_lift.2 ⟨_, readDigits?_eq_some.2 ⟨⟨some, all⟩, rfl⟩, rfl⟩

/-- The numeral of a whole number is a sign, if there is one, and digits. -/
lemma toList_toString (n : Int) :
    (toString n).toList = (if n < 0 then ['-'] else []) ++ Nat.toDigits 10 n.natAbs := by
  cases n with
  | ofNat n =>
    have nonneg : ¬ (Int.ofNat n < 0) := by simp
    rw [if_neg nonneg]
    exact String.toList_ofList
  | negSucc n =>
    rw [if_pos (Int.negSucc_lt_zero n)]
    change ("-" ++ Nat.repr (n + 1)).toList = _
    rw [String.toList_append]
    exact congrArg ('-' :: ·) String.toList_ofList

/-- It is a numeral of the number. -/
lemma numeral_toString (n : Int) : Numeral (toString n).toList n := by
  have some : Nat.toDigits 10 n.natAbs ≠ [] := Nat.toDigits_ne_nil
  have value : digitsValue 0 (Nat.toDigits 10 n.natAbs) = n.natAbs :=
    (readDigits?_eq_some.1 (readDigits?_toDigits n.natAbs)).2
  rw [toList_toString]
  by_cases negative : n < 0
  · rw [if_pos negative]
    have numeral := Numeral.minus some (all_isDigit_toDigits n.natAbs)
    rw [value, show -(n.natAbs : Int) = n by omega] at numeral
    exact numeral
  · rw [if_neg negative]
    have numeral := Numeral.plain some (all_isDigit_toDigits n.natAbs)
    rw [value, show (n.natAbs : Int) = n by omega] at numeral
    exact numeral

/-! ## Natural numbers -/

/-- Whether a text is a natural number: digits, with a plus sign in front or without. -/
inductive Natural : List Char → Nat → Prop where
  | plain {digits : List Char} (some : digits ≠ []) (all : digits.all Char.isDigit) :
    Natural digits (Nat.ofDigitChars 10 digits 0)
  | plus {digits : List Char} (some : digits ≠ []) (all : digits.all Char.isDigit) :
    Natural ('+' :: digits) (Nat.ofDigitChars 10 digits 0)

/-- A natural number is read where the text is one within the limit. -/
theorem readNatural?_eq_some {limit : Nat} {cs : List Char} {n : Nat} :
    readNatural? limit cs = some n ↔ Natural cs n ∧ n ≤ limit := by
  unfold readNatural?
  rw [Option.filter_eq_some_iff, decide_eq_true_iff, and_congr_left_iff]
  intro _
  constructor
  · intro read
    split at read
    · next plus =>
      obtain ⟨digits, rfl⟩ := List.head?_eq_some_iff.1 plus
      obtain ⟨⟨some, all⟩, rfl⟩ := readDigits?_eq_some.1 read
      rw [digitsValue_eq]
      exact .plus some all
    · obtain ⟨⟨some, all⟩, rfl⟩ := readDigits?_eq_some.1 read
      rw [digitsValue_eq]
      exact .plain some all
  · intro natural
    cases natural with
    | plain some all =>
      rw [if_neg (head?_ne_of_digits all (by decide))]
      exact readDigits?_eq_some.2 ⟨⟨some, all⟩, digitsValue_eq _ 0⟩
    | plus some all => exact readDigits?_eq_some.2 ⟨⟨some, all⟩, digitsValue_eq _ 0⟩

/-- A natural number is made of digits and plus signs. -/
lemma Natural.all_isDigit {cs : List Char} {n : Nat} (h : Natural cs n) :
    ∀ c ∈ cs, c.isDigit ∨ c = '+' := by
  intro c mem
  cases h with
  | plain some all => exact .inl (List.all_eq_true.1 all c mem)
  | plus some all =>
    rcases List.mem_cons.1 mem with plus | mem
    · exact .inr plus
    · exact .inl (List.all_eq_true.1 all c mem)

/-- A number is spelled by its digits. -/
lemma natural_toDigits (n : Nat) : Natural (Nat.toDigits 10 n) n := by
  have digits := Natural.plain Nat.toDigits_ne_nil (all_isDigit_toDigits n)
  rwa [Nat.ofDigitChars_toDigits (by decide) (by decide)] at digits

end Tenancy.Text
