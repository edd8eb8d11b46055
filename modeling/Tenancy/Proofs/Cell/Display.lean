import Mathlib.Tactic.Lemma
import Tenancy.Cell
import Tenancy.Proofs.Text.Numerals

/-!
# Cells as text

A cell without a value is shown as `NULL`. Of the cells with a value only the text of these four
characters is shown so (`Cell.display_eq_iff`): numbers have no `N` in them, the words for what is not a
number are other ones, and every other kind of cell has a character that `NULL` has not.
-/

namespace Tenancy
open Number Text

namespace Number

/-- No numeral has an N in it. -/
lemma not_mem_toDigits (n : Nat) : 'N' ∉ Nat.toDigits 10 n := fun mem =>
  absurd (Nat.isDigit_of_mem_toDigits (by decide) (by decide) mem) (by decide)

/-- Nor has one with a sign. -/
lemma not_mem_toString (n : Int) : 'N' ∉ (toString n).toList := by
  rw [toList_toString, List.mem_append, not_or]
  exact ⟨by split <;> decide, not_mem_toDigits _⟩

/-- A number that is written out has zeros, a point and its digits. -/
lemma mem_positional {digits : List Char} {point : Int} {c : Char} (mem : c ∈ positional digits point) :
    c = '0' ∨ c = '.' ∨ c ∈ digits := by
  unfold positional at mem
  dsimp only at mem
  split at mem
  · simp only [List.cons_append, List.mem_cons, List.mem_append] at mem
    rcases mem with zero | point | zeros | digit
    · exact .inl zero
    · exact .inr (.inl point)
    · exact .inl (List.eq_of_mem_replicate zeros)
    · exact .inr (.inr digit)
  · split at mem
    · rcases List.mem_append.1 mem with digit | zeros
      · exact .inr (.inr digit)
      · exact .inl (List.eq_of_mem_replicate zeros)
    · rcases List.mem_append.1 mem with front | back
      · exact .inr (.inr (List.mem_of_mem_take front))
      · rcases List.mem_cons.1 back with point | back
        · exact .inr (.inl point)
        · exact .inr (.inr (List.mem_of_mem_drop back))

/-- So there is no N in it. -/
lemma not_mem_positional (n : Nat) (point : Int) : 'N' ∉ positional (Nat.toDigits 10 n) point := by
  intro mem
  rcases mem_positional mem with zero | point | digit
  · cases zero
  · cases point
  · exact not_mem_toDigits n digit

end Number

/-- A date has a hyphen. -/
lemma Date.hyphen_mem_text (d : Date) : '-' ∈ d.text.toList := by
  change '-' ∈ (yearText d.year ++ "-" ++ padded 2 d.month ++ "-" ++ padded 2 d.day).toList
  simp

/-- So has a moment. -/
lemma Moment.hyphen_mem_text (m : Moment) : '-' ∈ m.text.toList := by
  have date : m.date.text.toList ⊆ m.text.toList := by
    intro c mem
    simp only [text, String.toList_append, List.mem_append]
    simp [ToString.toString, mem]
  exact date m.date.hyphen_mem_text

namespace Cell

section Null
variable {s : String}

/-- A text with another character is not the one for null. -/
lemma ne_null_of_mem {c : Char} (mem : c ∈ s.toList) (other : c ∉ "NULL".toList) : s ≠ "NULL" := by
  rintro rfl
  exact other mem

/-- Nor is a text without an N. -/
lemma ne_null_of_not_mem (none : 'N' ∉ s.toList) : s ≠ "NULL" := by
  rintro rfl
  exact none (by decide)

/-- Nor is one that starts with another character. -/
lemma ofList_cons_ne_null {c : Char} (cs : List Char) (other : c ∉ "NULL".toList) :
    String.ofList (c :: cs) ≠ "NULL" := by
  refine ne_null_of_mem ?_ other
  rw [String.toList_ofList]
  exact List.mem_cons_self

end Null

/-- A number that is written out is not the text for null. -/
lemma plainText_ne (x : Binary64) : plainText x ≠ "NULL" := by
  unfold plainText
  cases x.meaning with
  | nan => decide
  | infinity negative => cases negative <;> decide
  | finite negative m q =>
    have sign : 'N' ∉ (if negative = true then ['-'] else []) := by split <;> decide
    dsimp only
    split
    · refine ne_null_of_not_mem ?_
      rw [String.toList_ofList, List.mem_append, not_or]
      exact ⟨sign, by decide⟩
    · refine ne_null_of_not_mem ?_
      rw [String.toList_ofList, List.mem_append, not_or]
      exact ⟨sign, not_mem_positional _ _⟩

/-- A number in its shortest form has no N in it. -/
lemma not_mem_compactText (x : Binary64) : 'N' ∉ (compactText x).toList := by
  unfold compactText
  cases x.meaning with
  | nan => decide
  | infinity negative =>
    change 'N' ∉ "null".toList
    decide
  | finite negative m q =>
    have sign : 'N' ∉ (if negative = true then ['-'] else []) := by split <;> decide
    dsimp only
    split
    · rw [String.toList_ofList, List.mem_append, not_or]
      exact ⟨sign, by decide⟩
    split
    · -- one digit, the fraction if there is one, and the exponent
      have fraction (n : Nat) : 'N' ∉ '.' :: (Nat.toDigits 10 n).tail := by
        rw [List.mem_cons, not_or]
        exact ⟨by decide, fun mem => not_mem_toDigits _ (List.mem_of_mem_tail mem)⟩
      simp only [String.toList_ofList, List.mem_append, not_or]
      refine ⟨⟨⟨⟨sign, fun mem => not_mem_toDigits _ (List.mem_of_mem_take mem)⟩, ?_⟩, ?_⟩,
        not_mem_toDigits _⟩
      · split
        · exact List.not_mem_nil
        · exact fraction _
      · split <;> decide
    · simp only [String.toList_ofList, List.mem_append, not_or]
      refine ⟨⟨sign, not_mem_positional _ _⟩, ?_⟩
      split <;> decide

/-- A document is not the text for null. -/
lemma jsonText_ne (v : Json) : v.text ≠ "NULL" := by
  rw [Json.text]
  cases v with
  | null => decide
  | bool b => cases b <;> decide
  | int n =>
    refine ne_null_of_not_mem ?_
    rw [String.toList_ofList]
    exact not_mem_toString n
  | float x =>
    refine ne_null_of_not_mem ?_
    rw [String.toList_ofList]
    exact not_mem_compactText x
  | str s => exact ofList_cons_ne_null _ (by decide)
  | arr items => exact ofList_cons_ne_null (c := '[') _ (by decide)
  | obj fields => exact ofList_cons_ne_null (c := '\x7b') _ (by decide)

/-- What is shown as no value is no value, or the text of these characters. -/
theorem display_eq_iff (cell : Cell) : cell.display = "NULL" ↔ cell = .null ∨ cell = .text "NULL" := by
  have proper {cell : Cell} (ne : cell.display ≠ "NULL") :
      cell.display = "NULL" ↔ cell = .null ∨ cell = .text "NULL" := by
    refine ⟨fun eq => absurd eq ne, ?_⟩
    rintro (rfl | rfl)
    · exact rfl
    · exact rfl
  cases cell with
  | null => exact iff_of_true rfl (.inl rfl)
  | text s => simp [display]
  | bool b => exact proper (by cases b <;> decide)
  | int n => exact proper (ne_null_of_not_mem (not_mem_toString n))
  | float x => exact proper (plainText_ne x)
  | bytes bs => exact proper (ne_null_of_mem (c := '[') (by simp [display, ToString.toString]) (by decide))
  | date d => exact proper (ne_null_of_mem (d.hyphen_mem_text) (by decide))
  | timestamp m => exact proper (ne_null_of_mem (m.hyphen_mem_text) (by decide))
  | instant m =>
    refine proper (ne_null_of_mem (c := '-') ?_ (by decide))
    simp [display, ToString.toString, m.hyphen_mem_text]
  | json v => exact proper (jsonText_ne v)

end Cell
end Tenancy
