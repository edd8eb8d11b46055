import Tenancy.Cell
import Tenancy.Json.Reader
import Tenancy.Json.Writer
import Tenancy.Proofs.Text.Utf8

/-!
# Scalars that are written and read

A string that is written as JSON is read back (`parse_str`), whatever its characters: each is read back
from its escaped form (`readString_escapeChar`). So is a whole number that fits a word and has no sign
(`parse_int`), whose digits are absorbed one after the other (`absorb_toDigits`).
-/

namespace Tenancy.Json
open Text

/-- The digits of a number below sixteen denote the number. -/
lemma hexValue_digitChar : ∀ n < 16, hexValue? (Nat.digitChar n) = some n := by decide

/-- The numerals of the control characters that have two digits. -/
lemma toDigits_control :
    ∀ n < 32, 16 ≤ n → Nat.toDigits 16 n = ['1', Nat.digitChar (n - 16)] := by decide

/-- A character after a backslash that stands for another. -/
lemma readString_escape {x c : Char} (h : unescape? x = some c) (rest : List Char) :
    readString? ('\\' :: x :: rest) = (readString? rest).map fun (s, more) => (c :: s, more) := by
  have other : x ≠ 'u' := by
    rintro rfl
    cases h
  have step : readString? ('\\' :: x :: rest) =
      (unescape? x).bind fun c => (readString? rest).bind fun (s, more) => some (c :: s, more) := by
    rw [readString?]
    · rfl
    · intro a b c d e f g h cs eq
      exact absurd eq other
    · intro a b c d cs eq
      exact absurd eq other
  rw [step, h, Option.map_eq_bind]
  rfl

/-- An escape with a number stands for the character with that code point. -/
lemma readString_number {a b c d : Char} {n : Nat} (h : hexUnit? a b c d = some n) (low : n < 0xD800)
    (rest : List Char) :
    readString? ('\\' :: 'u' :: a :: b :: c :: d :: rest) =
      (readString? rest).map fun (s, more) => (Char.ofNat n :: s, more) := by
  have high : ¬ 0xD800 ≤ n := by omega
  have last : ¬ 0xDC00 ≤ n := by omega
  -- What follows may be one more number, as after the first of two surrogates.
  rw [readString?.eq_def]
  split
  · next eq => cases eq
  · next eq => cases eq
  · next eq =>
    cases eq
    simp only [h, Option.pure_def, Option.bind_eq_bind, Option.bind_some, high, last, false_and,
      ↓reduceIte, Option.map_eq_bind]
    rfl
  · next eq =>
    cases eq
    simp only [h, Option.pure_def, Option.bind_eq_bind, Option.bind_some, high, false_and, ↓reduceIte,
      Option.map_eq_bind]
    rfl
  · next none eq =>
    cases eq
    exact absurd rfl (none a b c d rest rfl)
  · next none eq =>
    cases eq
    exact absurd rfl (none _ _ rfl)

/-- An ordinary character in a string stands for itself. -/
lemma readString_plain {c : Char} (visible : ¬ c.toNat < 32) (quote : c ≠ '"') (slash : c ≠ '\\')
    (rest : List Char) :
    readString? (c :: rest) = (readString? rest).map fun (s, more) => (c :: s, more) := by
  rw [readString?]
  · rw [if_neg (by simp [visible, slash]), Option.map_eq_bind]
    rfl
  · exact fun eq => quote eq
  · exact fun _ _ _ _ _ _ _ _ _ eq => absurd eq slash
  · exact fun _ _ _ _ _ eq => absurd eq slash
  · exact fun _ _ eq => absurd eq slash

/-- A character is read back from its escaped form, whatever follows. -/
lemma readString_escapeChar (c : Char) (rest : List Char) :
    readString? (escapeChar c ++ rest) = (readString? rest).map fun (s, more) => (c :: s, more) := by
  have single (x : Char) (h : unescape? x = some c) :
      readString? (['\\', x] ++ rest) = (readString? rest).map fun (s, more) => (c :: s, more) :=
    readString_escape h rest
  have back : Char.ofNat c.toNat = c := Char.ofNat_toNat c
  -- The characters with an escape of their own, then the other control characters, then the rest.
  unfold escapeChar
  by_cases quote : c = '"'
  · subst quote
    exact single '"' rfl
  by_cases slash : c = '\\'
  · subst slash
    exact single '\\' rfl
  by_cases newline : c = '\n'
  · subst newline
    exact single 'n' rfl
  by_cases carriage : c = '\r'
  · subst carriage
    exact single 'r' rfl
  by_cases tab : c = '\t'
  · subst tab
    exact single 't' rfl
  by_cases backspace : c = '\x08'
  · subst backspace
    exact single 'b' rfl
  by_cases feed : c = '\x0c'
  · subst feed
    exact single 'f' rfl
  rw [if_neg quote, if_neg slash, if_neg newline, if_neg carriage, if_neg tab, if_neg backspace,
    if_neg feed]
  by_cases low : c.toNat < 16
  · rw [if_pos low, Nat.toDigits_of_lt_base low]
    have unit : hexUnit? '0' '0' '0' (Nat.digitChar c.toNat) = some c.toNat := by
      simp [hexUnit?, hexValue_digitChar _ low, show hexValue? '0' = some 0 from rfl]
    simpa [back] using readString_number unit (by omega) rest
  rw [if_neg low]
  by_cases control : c.toNat < 32
  · rw [if_pos control]
    have unit : hexUnit? '0' '0' '1' (Nat.digitChar (c.toNat - 16)) = some c.toNat := by
      simp [hexUnit?, hexValue_digitChar (c.toNat - 16) (by omega), show hexValue? '0' = some 0 from rfl,
        show hexValue? '1' = some 1 from rfl]
      omega
    rw [toDigits_control c.toNat control (by omega)]
    simpa [back] using readString_number unit (by omega) rest
  rw [if_neg control]
  exact readString_plain control quote slash rest

/-- A string that was written is read again. -/
lemma readString_flatMap (cs rest : List Char) :
    readString? (cs.flatMap escapeChar ++ '"' :: rest) = some (cs, rest) := by
  induction cs with
  | nil => rw [List.flatMap_nil, List.nil_append, readString?]
  | cons c cs ih => rw [List.flatMap_cons, List.append_assoc, readString_escapeChar, ih, Option.map_some]

/-- The empty text has no tokens. -/
lemma tokens_nil (bound : Nat) : tokens? bound [] = some [] := by
  cases bound with
  | zero => rfl
  | succ bound => rfl

/-- A string is read back. -/
theorem parse_str (s : String) : parse? (str s).text = some (.str s) := by
  have chars : (str s).text.toList = '"' :: (s.toList.flatMap escapeChar ++ ['"']) := by
    rw [text, String.toList_ofList, Json.chars, stringText, List.cons_append]
  have token : readToken? ('"' :: (s.toList.flatMap escapeChar ++ ['"'])) = some (.str s, []) := by
    rw [readToken?, readString_flatMap, Option.map_some]
    dsimp only
    rw [String.ofList_toList]
  have tokens : tokens? (str s).text.length (str s).text.toList = some [.str s] := by
    rw [← String.length_toList, chars, List.length_cons, tokens?]
    have start : ('"' :: (s.toList.flatMap escapeChar ++ ['"'])).dropWhile isGap =
        '"' :: (s.toList.flatMap escapeChar ++ ['"']) := List.dropWhile_cons_of_neg (by decide)
    rw [start]
    simp [token, tokens_nil]
  simp [parse?, tokens, readValue?, maxDepth]

/-- A text that was read to its end is read with more behind it. -/
lemma absorb_append {s m : Nat} {cs : List Char} (h : absorb s cs = (m, [])) (more : List Char) :
    absorb s (cs ++ more) = absorb m more := by
  induction cs generalizing s with
  | nil =>
    cases h
    rfl
  | cons c cs ih =>
    rw [absorb] at h
    rw [List.cons_append, absorb]
    split
    · next fits => exact ih (by rwa [if_pos fits] at h)
    · next exceeds =>
      rw [if_neg exceeds] at h
      cases h

/-- The digits of a number are absorbed, if the number fits. -/
lemma absorb_toDigits (n : Nat) (fits : n ≤ maxWord64) : absorb 0 (Nat.toDigits 10 n) = (n, []) := by
  have digit {m d : Nat} (low : d < 10) (fits : m * 10 + d ≤ maxWord64) :
      absorb m [Nat.digitChar d] = (m * 10 + d, []) := by
    have value : (Nat.digitChar d).toNat - '0'.toNat = d := by
      rw [Nat.toNat_digitChar_of_lt_ten low]
      exact Nat.add_sub_cancel_left _ _
    rw [absorb, value, if_pos fits, absorb]
  induction n using Nat.strongRecOn with
  | ind n ih =>
    by_cases low : n < 10
    · rw [Nat.toDigits_of_lt_base low, digit low (by omega), Nat.zero_mul, Nat.zero_add]
    · have most := ih (n / 10) (by omega) (by omega)
      rw [Nat.toDigits_of_base_le (by decide) (by omega), absorb_append most, digit (by omega) (by omega)]
      rw [Nat.div_add_mod']

/-- No number but zero has a zero in front. -/
lemma eq_zero_of_head {n : Nat} (h : (Nat.toDigits 10 n).head? = some '0') : n = 0 := by
  induction n using Nat.strongRecOn with
  | ind n ih =>
    by_cases low : n < 10
    · rw [Nat.toDigits_of_lt_base low] at h
      have each : ∀ n < 10, [Nat.digitChar n].head? = some '0' → n = 0 := by decide
      exact each n low h
    · have some : (Nat.toDigits 10 (n / 10)).head?.isSome := by simp [Nat.toDigits_ne_nil]
      rw [Nat.toDigits_of_base_le (by decide) (by omega), List.head?_append, Option.or_of_isSome some] at h
      have front := ih (n / 10) (by omega) h
      omega

/-- A digit is the beginning of a number. -/
lemma readToken_digit {c : Char} (digit : c.isDigit) (cs : List Char) :
    readToken? (c :: cs) = (readMagnitude? false (c :: cs)).map fun (v, rest) => (.scalar v, rest) := by
  have other (d : Char) (none : d.isDigit = false) : c ≠ d := by
    rintro rfl
    rw [digit] at none
    cases none
  have number : readNumber? (c :: cs) = readMagnitude? false (c :: cs) := by
    unfold readNumber?
    split
    · next eq => exact absurd (List.cons.inj eq).1 (other '-' (by decide))
    · rfl
  rw [← number]
  unfold readToken?
  split
  case h_1 eq => cases eq
  case h_12 => rfl
  all_goals
    next eq => exact absurd (List.cons.inj eq).1 (other _ (by decide))

/-- A number that fits is read back. -/
theorem parse_int {n : Nat} (fits : n ≤ maxWord64) : parse? (int n).text = some (.int n) := by
  have text : (int n).text = String.ofList (Nat.toDigits 10 n) := by
    rw [Json.text, Json.chars, String.ofList_toList]
    rfl
  obtain ⟨c, cs, eq⟩ := List.exists_cons_of_ne_nil (Nat.toDigits_ne_nil (n := n) (b := 10))
  have all : ∀ d ∈ c :: cs, d.isDigit := fun d mem =>
    Nat.isDigit_of_mem_toDigits (by decide) (by decide) (eq ▸ mem)
  have whole : (c :: cs).takeWhile Char.isDigit = c :: cs := by
    rw [← List.append_nil (c :: cs), List.takeWhile_append_of_pos all, List.takeWhile_nil]
  have rest : (c :: cs).dropWhile Char.isDigit = [] := by
    rw [← List.append_nil (c :: cs), List.dropWhile_append_of_pos all, List.dropWhile_nil]
  have absorbed : absorb 0 (c :: cs) = (n, []) := eq ▸ absorb_toDigits n fits
  have zero : ¬ ((c :: cs) = [] ∨ (c :: cs).head? = some '0' ∧ (c :: cs) ≠ ['0']) := by
    rintro (none | ⟨head, more⟩)
    · cases none
    · rw [← eq] at head more
      obtain rfl := eq_zero_of_head head
      exact more rfl
  have magnitude : readMagnitude? false (c :: cs) = some (.int n, []) := by
    simp only [readMagnitude?, whole, rest, absorbed, if_neg zero]
    rfl
  have token : readToken? (c :: cs) = some (.scalar (.int n), []) := by
    rw [readToken_digit (all c List.mem_cons_self), magnitude]
    rfl
  have gap : (c :: cs).dropWhile isGap = c :: cs := by
    refine List.dropWhile_cons_of_neg fun gap => ?_
    rw [isGap, Bool.or_eq_true, Bool.or_eq_true, Bool.or_eq_true] at gap
    have digit := all c List.mem_cons_self
    simp only [decide_eq_true_eq] at gap
    rcases gap with ((rfl | rfl) | rfl) | rfl
    all_goals cases digit
  have tokens : tokens? (c :: cs).length (c :: cs) = some [.scalar (.int n)] := by
    rw [List.length_cons, tokens?, gap]
    simp [token, tokens_nil]
  rw [parse?, text, String.length_ofList, String.toList_ofList, eq, tokens]
  rfl

example : parse? (int 1).text = some (int 1) := by rfl

end Tenancy.Json
