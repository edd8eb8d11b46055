import Mathlib.Tactic.Lemma
import Tenancy.Prefix
import Tenancy.Sql.Lexeme
import Tenancy.Text.Case

/-!
# ASCII

Where a text is ASCII, words are made of the characters of names, and case is a matter of single
letters: `isWord_of_isAscii`, `foldChar_of_isAscii` and `lower_of_isAscii`.
-/

namespace Tenancy.Text
open Sql

/-- A character of ASCII. -/
def isAscii (c : Char) : Bool := c.toNat < 128

/-- What holds of the characters of ASCII can be checked for each of them. -/
lemma isAscii_induction (q : Char → Prop) (h : ∀ n < 128, q (Char.ofNat n)) {c : Char}
    (hc : isAscii c) : q c := by
  have checked := h c.toNat (of_decide_eq_true hc)
  rwa [Char.ofNat_toNat] at checked

/-- Characters of names are those of ASCII. -/
lemma isAscii_of_isNameChar {c : Char} (h : isNameChar c) : isAscii c := by
  have upZ : ('Z'.val).toNat = 90 := rfl
  have lowZ : ('z'.val).toNat = 122 := rfl
  have nine : ('9'.val).toNat = 57 := rfl
  rw [isNameChar, Bool.or_eq_true, isAlphanum_iff, decide_eq_true_eq] at h
  show decide (c.val.toNat < 128) = true
  rw [decide_eq_true_eq]
  rcases h with (upper | lower | digit) | rfl
  · have range : c.val ≤ 'Z'.val := (of_decide_eq_true upper).2
    rw [UInt32.le_iff_toNat_le] at range
    omega
  · have range : c.val ≤ 'z'.val := (Bool.and_eq_true_iff.1 lower).2 |> of_decide_eq_true
    rw [UInt32.le_iff_toNat_le] at range
    omega
  · have range : c.val ≤ '9'.val := (Bool.and_eq_true_iff.1 digit).2 |> of_decide_eq_true
    rw [UInt32.le_iff_toNat_le] at range
    omega
  · decide

/-- What the tables of code points say of the characters of ASCII. -/
lemma tables_of_isAscii {c : Char} (h : isAscii c) :
    isWord c = isNameChar c ∧ foldChar c = c.toLower ∧ (lowerChar c = [c.toLower] ∧ c ≠ 'Σ') ∧
      isNameChar c.toLower = isNameChar c ∧ c.toLower.toLower = c.toLower ∧
        (isPrefixChar c → c.toLower = c) :=
  isAscii_induction (fun c => isWord c = isNameChar c ∧ foldChar c = c.toLower ∧
    (lowerChar c = [c.toLower] ∧ c ≠ 'Σ') ∧ isNameChar c.toLower = isNameChar c ∧
      c.toLower.toLower = c.toLower ∧ (isPrefixChar c → c.toLower = c)) (by decide) h

/-- In ASCII the characters of words are those of names. -/
lemma isWord_of_isAscii {c : Char} (h : isAscii c) : isWord c = isNameChar c :=
  (tables_of_isAscii h).1

/-- A character of names is one of words. -/
lemma isWord_of_isNameChar {c : Char} (h : isNameChar c) : isWord c = true := by
  rw [isWord_of_isAscii (isAscii_of_isNameChar h), h]

/-- In ASCII case folding is lower case. -/
lemma foldChar_of_isAscii {c : Char} (h : isAscii c) : foldChar c = c.toLower :=
  (tables_of_isAscii h).2.1

/-- So is lower case in full, and no character there has another one at the end of a word. -/
lemma lowerChar_of_isAscii {c : Char} (h : isAscii c) : lowerChar c = [c.toLower] ∧ c ≠ 'Σ' :=
  (tables_of_isAscii h).2.2.1

/-- Letters of names stay letters of names in lower case, and nothing else becomes one. -/
lemma isNameChar_toLower {c : Char} (h : isAscii c) : isNameChar c.toLower = isNameChar c :=
  (tables_of_isAscii h).2.2.2.1

/-- Lower case stays as it is. -/
lemma toLower_toLower_of_isAscii {c : Char} (h : isAscii c) : c.toLower.toLower = c.toLower :=
  (tables_of_isAscii h).2.2.2.2.1

/-- A text is put into lower case character by character where each of them has one lower case. -/
lemma lower_eq_map {cs : List Char} (h : ∀ c ∈ cs, lowerChar c = [c.toLower] ∧ c ≠ 'Σ') :
    lower cs = cs.map Char.toLower := by
  have key (before : List Char) : lowerFrom before cs = cs.map Char.toLower := by
    induction cs generalizing before with
    | nil => rfl
    | cons c cs ih =>
      obtain ⟨⟨single, sigma⟩, tail⟩ := List.forall_mem_cons.1 h
      rw [lowerFrom, if_neg sigma, single, ih tail]
      rfl
  exact key []

/-- A text of ASCII has the lower case of its letters. -/
lemma lower_of_isAscii {cs : List Char} (h : cs.all isAscii) : lower cs = cs.map Char.toLower :=
  lower_eq_map fun _ mem => lowerChar_of_isAscii (List.all_eq_true.1 h _ mem)

/-! Prefixes are made of characters of names that are in lower case already. -/

/-- A character of prefixes is one of names. -/
lemma isNameChar_of_isPrefixChar {c : Char} (h : isPrefixChar c) : isNameChar c := by
  simp only [isPrefixChar, Bool.or_eq_true, decide_eq_true_eq] at h
  rw [isNameChar, Bool.or_eq_true, isAlphanum_iff, decide_eq_true_eq]
  rcases h with (lower | digit) | underscore
  · exact .inl (.inr (.inl lower))
  · exact .inl (.inr (.inr digit))
  · exact .inr underscore

/-- It is in lower case. -/
lemma toLower_of_isPrefixChar {c : Char} (h : isPrefixChar c) : c.toLower = c :=
  (tables_of_isAscii (isAscii_of_isNameChar (isNameChar_of_isPrefixChar h))).2.2.2.2.2 h

/-- So is a text of such characters. -/
lemma map_toLower_of_isPrefixChar {cs : List Char} (h : cs.all isPrefixChar) :
    cs.map Char.toLower = cs := by
  have same : ∀ c ∈ cs, c.toLower = id c := fun c mem =>
    toLower_of_isPrefixChar (List.all_eq_true.1 h c mem)
  rw [List.map_congr_left same, List.map_id]

/-- So it is in full. -/
lemma lower_of_isPrefixChar {cs : List Char} (h : cs.all isPrefixChar) : lower cs = cs := by
  have ascii : cs.all isAscii := List.all_eq_true.2 fun c mem =>
    isAscii_of_isNameChar (isNameChar_of_isPrefixChar (List.all_eq_true.1 h c mem))
  rw [lower_of_isAscii ascii, map_toLower_of_isPrefixChar h]

end Tenancy.Text
