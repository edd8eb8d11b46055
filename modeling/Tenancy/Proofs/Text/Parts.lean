import Mathlib.Data.List.Infix
import Mathlib.Tactic.Lemma
import Tenancy.Text.Word

/-!
# Parts of texts

A text stands in another if it is a stretch of it (`standsIn_iff`), and what trimming leaves is a stretch
(`isInfix_trim`). The stretches between separators are those that have none in them and make the text again
(`splitOn_eq_iff`).
-/

namespace Tenancy.Text

/-- A part stands in a text if it is somewhere in it. -/
lemma standsIn_iff {part cs : List Char} : standsIn part cs ↔ part <:+: cs := by
  induction cs with
  | nil => rw [standsIn, List.isEmpty_iff, List.infix_nil]
  | cons c cs ih =>
    rw [standsIn, Bool.or_eq_true, List.isPrefixOf_iff_prefix, ih, List.infix_cons_iff]

/-- What is left without the blanks at the start is the end of the text. -/
lemma trimStart_suffix (cs : List Char) : trimStart cs <:+ cs := List.dropWhile_suffix _

/-- What is left without the blanks at both ends is somewhere in it. -/
lemma isInfix_trim (cs : List Char) : trim cs <:+: cs := by
  have inner : trim cs <+: trimStart cs :=
    List.reverse_suffix.1 (by rw [trim, List.reverse_reverse]; exact trimStart_suffix _)
  exact inner.isInfix.trans (trimStart_suffix cs).isInfix

section Stretches
variable {separator : Char} {cs part : List Char} {parts : List (List Char)}

/-- No stretch between separators has one in it. -/
lemma not_mem_of_mem_splitOn (mem : part ∈ cs.splitOn separator) : separator ∉ part := by
  induction cs generalizing part with
  | nil =>
    rw [List.splitOn_nil, List.mem_singleton] at mem
    subst mem
    exact List.not_mem_nil
  | cons c cs ih =>
    rw [List.splitOn_cons_eq_if_modifyHead] at mem
    split at mem
    · rcases List.mem_cons.1 mem with rfl | mem
      · exact List.not_mem_nil
      · exact ih mem
    · next other =>
      obtain ⟨first, rest, split⟩ := List.exists_cons_of_ne_nil (List.splitOn_ne_nil separator cs)
      rw [split, List.modifyHead_cons] at mem
      rw [split] at ih
      rcases List.mem_cons.1 mem with rfl | mem
      · rw [List.mem_cons, not_or]
        refine ⟨?_, ih List.mem_cons_self⟩
        rintro rfl
        exact other BEq.rfl
      · exact ih (List.mem_cons_of_mem first mem)

/-- The stretches between separators are those that have none in them and make the text again. -/
lemma splitOn_eq_iff (some : parts ≠ []) :
    cs.splitOn separator = parts ↔
      cs = [separator].intercalate parts ∧ ∀ part ∈ parts, separator ∉ part := by
  constructor
  · rintro rfl
    exact ⟨(List.intercalate_splitOn separator).symm, fun _ => not_mem_of_mem_splitOn⟩
  · rintro ⟨rfl, clear⟩
    exact List.splitOn_intercalate separator clear some

end Stretches

end Tenancy.Text
