import Mathlib.Tactic.Lemma
import Tenancy.Failure
import Tenancy.Proofs.Text.Ascii

/-!
# Where statements go wrong

The server counts the characters of a statement, and the place that is told of a position is found by counting
bytes (`lineColumn_eq`): it is the place behind those characters that start within so many bytes. A text has no
two characters in one place (`placeBehind_inj_of_prefix`), so the place is that of the character the server means
exactly if there are as many of those characters as bytes, which is so where all but the last of them are ASCII
(`startingWithin_eq_take_iff`). `StatementFailure.told_place_iff` says so of failures.
-/

namespace Tenancy
open Text

/-! ## Places -/

/-- The line and the column, both from one, of what stands behind a text: a line for each line end, and a column
for each character after the last of them. -/
def placeBehind (before : List Char) : Nat × Nat :=
  (1 + before.count '\n', 1 + (before.reverse.takeWhile (· ≠ '\n')).length)

/-- Behind one more character the place is further on, or at the start of the next line. -/
lemma placeBehind_concat (before : List Char) (c : Char) :
    placeBehind (before ++ [c]) =
      if c = '\n' then ((placeBehind before).1 + 1, 1)
      else ((placeBehind before).1, (placeBehind before).2 + 1) := by
  unfold placeBehind
  rw [List.count_append, List.reverse_append, List.reverse_singleton, List.singleton_append]
  split
  · next newline =>
    subst newline
    rfl
  · next other =>
    rw [List.takeWhile_cons_of_pos (by simpa using other), List.count_singleton, if_neg (by simpa using other)]
    rfl

/-- What follows a text does not stand where the text itself ends. -/
lemma placeBehind_append_ne (before : List Char) {more : List Char} (some : more ≠ []) :
    placeBehind (before ++ more) ≠ placeBehind before := by
  intro same
  obtain ⟨lines, columns⟩ := Prod.mk.inj same
  have unbroken : '\n' ∉ more := by
    rw [List.count_append] at lines
    exact List.count_eq_zero.1 (by omega)
  have pass : ∀ c ∈ more.reverse, decide (c ≠ '\n') := by
    intro c mem
    apply decide_eq_true
    rintro rfl
    exact unbroken (List.mem_reverse.1 mem)
  rw [List.reverse_append, List.takeWhile_append_of_pos pass, List.length_append, List.length_reverse] at columns
  have length := List.length_pos_iff.2 some
  omega

/-- The places in a text differ. -/
lemma placeBehind_inj_of_prefix {before whole : List Char} (h : before <+: whole) :
    placeBehind before = placeBehind whole ↔ before = whole := by
  obtain ⟨more, rfl⟩ := h
  constructor
  · intro same
    cases more with
    | nil => rw [List.append_nil]
    | cons c more => exact absurd same.symm (placeBehind_append_ne before (List.cons_ne_nil c more))
  · exact congrArg placeBehind

/-! ## Characters and bytes -/

/-- The characters of a text that start within so many bytes. -/
def startingWithin : Nat → List Char → List Char
  | _, [] => []
  | bytes, c :: cs => if bytes = 0 then [] else c :: startingWithin (bytes - c.utf8Size) cs

/-- No characters start within the empty text. -/
@[simp]
lemma startingWithin_nil (bytes : Nat) : startingWithin bytes [] = [] := rfl

/-- None start within no bytes. -/
@[simp]
lemma startingWithin_zero (cs : List Char) : startingWithin 0 cs = [] := by
  cases cs with
  | _ => rfl

/-- The first character starts within any number of bytes, and the others within what it leaves. -/
lemma startingWithin_cons {bytes : Nat} (some : bytes ≠ 0) (c : Char) (cs : List Char) :
    startingWithin bytes (c :: cs) = c :: startingWithin (bytes - c.utf8Size) cs := if_neg some

/-- The characters of one byte are those of ASCII. -/
lemma utf8Size_eq_one_iff_isAscii {c : Char} : c.utf8Size = 1 ↔ isAscii c := by
  rw [Char.utf8Size_eq_one_iff, UInt32.le_iff_toNat_le]
  simp only [isAscii, decide_eq_true_eq]
  exact Nat.lt_succ_iff.symm

/-- There are at most as many characters as bytes. -/
lemma startingWithin_prefix_take (bytes : Nat) (cs : List Char) :
    startingWithin bytes cs <+: cs.take bytes := by
  induction cs generalizing bytes with
  | nil => simp
  | cons c cs ih =>
    cases bytes with
    | zero => simp
    | succ bytes =>
      have size := c.utf8Size_pos
      rw [startingWithin_cons bytes.add_one_ne_zero, List.take_succ_cons, List.cons_prefix_cons]
      exact ⟨rfl, (ih _).trans (List.take_prefix_take_left (by omega))⟩

/-- There are as many characters as bytes exactly if all of them but the last are ASCII. -/
theorem startingWithin_eq_take_iff {bytes : Nat} {cs : List Char} (within : bytes ≤ cs.length) :
    startingWithin bytes cs = cs.take bytes ↔ (cs.take (bytes - 1)).all isAscii := by
  induction cs generalizing bytes with
  | nil => simp
  | cons c cs ih =>
    cases bytes with
    | zero => simp
    | succ bytes =>
      rw [List.length_cons] at within
      rw [startingWithin_cons bytes.add_one_ne_zero, List.take_succ_cons, List.cons_inj_right,
        Nat.add_sub_cancel]
      by_cases ascii : isAscii c
      · rw [utf8Size_eq_one_iff_isAscii.2 ascii, Nat.add_sub_cancel, ih (by omega)]
        cases bytes with
        | zero => simp
        | succ bytes => simp [ascii]
      · -- The bytes of this character count for more than one, and so do not reach as far as the characters.
        have size : 2 ≤ c.utf8Size := by
          have pos := c.utf8Size_pos
          have other := mt utf8Size_eq_one_iff_isAscii.1 ascii
          omega
        cases bytes with
        | zero =>
          rw [show 0 + 1 - c.utf8Size = 0 by omega]
          simp
        | succ bytes =>
          refine iff_of_false (fun same => ?_) (by simp [ascii])
          have short := (startingWithin_prefix_take (bytes + 1 + 1 - c.utf8Size) cs).length_le
          rw [same, List.length_take, List.length_take] at short
          omega

/-! ## Positions -/

namespace StatementFailure

/-- Bytes are counted until the place is reached. -/
lemma advance_eq (target : Nat) (cs : List Char) : ∀ offset before,
    advance target offset (placeBehind before) cs =
      placeBehind (before ++ startingWithin (target - offset) cs) := by
  induction cs with
  | nil => simp [advance]
  | cons c cs ih =>
    intro offset before
    rw [advance]
    split
    · next reached => simp [Nat.sub_eq_zero_of_le reached]
    · next on =>
      have step := ih (offset + c.utf8Size) (before ++ [c])
      rw [placeBehind_concat, ← Nat.sub_sub, List.append_assoc] at step
      rw [startingWithin_cons (Nat.sub_ne_zero_of_lt (Nat.not_le.1 on))]
      split
      · next newline => rwa [if_pos newline] at step
      · next other => rwa [if_neg other] at step

/-- The place that is told of a position is behind the characters that start within so many bytes. -/
theorem lineColumn_eq (sql : String) (position : Nat) :
    lineColumn sql position = placeBehind (startingWithin (position - 1) sql.toList) := by
  unfold lineColumn
  split
  · next first => simp [first, placeBehind]
  · exact advance_eq (position - 1) sql.toList 0 []

/-- The place that is told where the server reports a position in a statement is behind the characters that start
within the bytes before that position. It is the place of the character at that position exactly if all the
characters before it are ASCII, but for the last of them. -/
theorem told_place_iff {f : StatementFailure} {report : Report} {position : Nat}
    (refused : f.fault = .refused report) (reported : report.place = some (.statement position))
    (within : position ≤ f.sql.toList.length) :
    f.place? = some (placeBehind (startingWithin (position - 1) f.sql.toList)) ∧
    (f.place? = some (placeBehind (f.sql.toList.take (position - 1))) ↔
      (f.sql.toList.take (position - 2)).all isAscii) := by
  have told : f.place? = some (lineColumn f.sql position) := by
    unfold place?
    rw [refused]
    obtain ⟨code, message, detail, hint, table, constraint, place⟩ := report
    cases reported
    rfl
  rw [told, lineColumn_eq]
  refine ⟨rfl, ?_⟩
  rw [Option.some.injEq, placeBehind_inj_of_prefix (startingWithin_prefix_take _ _),
    startingWithin_eq_take_iff (by omega)]
  rfl

/-- One character that is not ASCII, right before the position, does no harm. -/
theorem told_place_iff_accented :
    let report : Report := { code := "42703", message := "no column", place := some (.statement 16) }
    let f : StatementFailure := { sql := "SELECT *\nFROM éa", fault := .refused report }
    f.place? = some (placeBehind (f.sql.toList.take 15)) ∧
      placeBehind (f.sql.toList.take 15) = (2, 7) ∧ (f.sql.toList.take 14).all isAscii := by
  intro report f
  have ascii : (f.sql.toList.take 14).all isAscii := by decide
  have refused : f.fault = .refused report := rfl
  have reported : report.place = some (.statement 16) := rfl
  have exact := told_place_iff refused reported (by decide)
  exact ⟨exact.2.2 ascii, by decide, ascii⟩

/-- With a character between that is not ASCII, the place is not that of the position. -/
theorem told_place_of_accented :
    let report : Report := { code := "42703", message := "no column", place := some (.statement 13) }
    let f : StatementFailure := { sql := "SELECT 'é', x", fault := .refused report }
    13 ≤ f.sql.toList.length ∧ f.place? = some (1, 12) ∧ placeBehind (f.sql.toList.take 12) = (1, 13) := by
  decide

end StatementFailure
end Tenancy
