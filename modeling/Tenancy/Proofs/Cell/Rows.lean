import Tenancy.Proofs.Cell.Display
import Tenancy.Proofs.Cell.Values

/-!
# Rows of cells

A row gives one cell a column, in order. The cell of a column depends on nothing but the type of the column
and the value that was sent for it: it is the one that the value is for, and it is empty if nothing was sent,
and also if what was sent is for no cell (`Cell.ofRow_shows`). So an empty cell does not tell that there is
no value: a column of a type that is not read shows none whatever it holds.
-/

namespace Tenancy.Cell

/-- The value that was sent for a column. -/
def sent (row : Row) (i : Nat) : Option (List UInt8) := row[i]?.join

section Row
variable (columns : List Column) (row : Row)

/-- A row has a cell for each column. -/
lemma length_ofRow : (ofRow columns row).length = columns.length := by
  induction columns generalizing row with
  | nil => rfl
  | cons column columns ih =>
    cases row with
    | nil => rw [ofRow, List.length_cons, ih, List.length_cons]
    | cons value row => rw [ofRow, List.length_cons, ih, List.length_cons]

/-- Each cell is made of its own column and value. -/
lemma getElem?_ofRow (i : Nat) :
    (ofRow columns row)[i]? = columns[i]?.map fun column => ofValue column (sent row i) := by
  induction columns generalizing row i with
  | nil => rfl
  | cons column columns ih =>
    -- a row that is too short has nothing for the columns that remain
    cases row with
    | nil =>
      cases i with
      | zero => rfl
      | succ i => exact ih [] i
    | cons value row =>
      cases i with
      | zero => rfl
      | succ i => exact ih row i

end Row

section Value
variable {column : Column} {value : Option (List UInt8)}

/-- A cell that is something denotes the bytes that were sent. -/
lemma ofValue_eq_iff {cell : Cell} (proper : cell ≠ .null) :
    ofValue column value = cell ↔ ∃ bytes, value = some bytes ∧ Denotes column.type bytes cell := by
  cases value with
  | none => exact ⟨fun eq => absurd eq.symm proper, fun ⟨_, eq, _⟩ => by cases eq⟩
  | some bytes =>
    rw [ofValue, Option.elim_some, ofBytes_eq_iff proper]
    exact ⟨fun denotes => ⟨bytes, rfl, denotes⟩, fun ⟨_, rfl, denotes⟩ => denotes⟩

/-- A cell is null if nothing was sent, or bytes that denote nothing. -/
lemma ofValue_eq_null_iff :
    ofValue column value = .null ↔
      value = none ∨ ∃ bytes, value = some bytes ∧ ∀ cell, ¬ Denotes column.type bytes cell := by
  cases value with
  | none => exact iff_of_true rfl (.inl rfl)
  | some bytes =>
    rw [ofValue, Option.elim_some, ofBytes_eq_null_iff]
    refine ⟨fun other => .inr ⟨bytes, rfl, other⟩, ?_⟩
    rintro (none | ⟨_, eq, other⟩)
    · cases none
    · cases eq
      exact other

end Value

/-- A row has a cell for each column, in order. It is the cell that the value of the column is for; it is
empty if there is no value, or one that is for no cell. An empty cell is the only one that is shown as no
value, but for the text of these characters. -/
theorem ofRow_shows (columns : List Column) (row : Row) :
    (ofRow columns row).length = columns.length ∧
      ∀ i column, columns[i]? = some column →
        ∃ cell, (ofRow columns row)[i]? = some cell ∧
          (∀ c, c ≠ .null → (cell = c ↔ ∃ bytes, sent row i = some bytes ∧ Denotes column.type bytes c)) ∧
          (cell = .null ↔
            sent row i = none ∨ ∃ bytes, sent row i = some bytes ∧ ∀ c, ¬ Denotes column.type bytes c) ∧
          (cell.display = "NULL" ↔ cell = .null ∨ cell = .text "NULL") := by
  refine ⟨length_ofRow columns row, fun i column found => ⟨ofValue column (sent row i), ?_, ?_, ?_, ?_⟩⟩
  · rw [getElem?_ofRow, found, Option.map_some]
  · exact fun c proper => ofValue_eq_iff proper
  · exact ofValue_eq_null_iff
  · exact display_eq_iff _

/-- A whole number next to a document of another kind is shown. -/
theorem ofRow_shows_whole :
    [(⟨"n", "int4"⟩ : Column), ⟨"x", "xml"⟩][0]? = some ⟨"n", "int4"⟩ ∧
      (Cell.int (-5)) ≠ .null ∧
      (ofRow [⟨"n", "int4"⟩, ⟨"x", "xml"⟩] [some (Wire.integer 4 (-5)), some (Wire.text "<a/>")])[0]? =
        some (.int (-5)) := by
  have found : [(⟨"n", "int4"⟩ : Column), ⟨"x", "xml"⟩][0]? = some ⟨"n", "int4"⟩ := rfl
  have proper : (Cell.int (-5)) ≠ .null := Cell.noConfusion
  have denotes : Denotes "int4" (Wire.integer 4 (-5)) (.int (-5)) := .int (by decide) (by decide)
  obtain ⟨cell, shown, reads, -, -⟩ := (ofRow_shows [⟨"n", "int4"⟩, ⟨"x", "xml"⟩]
    [some (Wire.integer 4 (-5)), some (Wire.text "<a/>")]).2 0 _ found
  rw [(reads _ proper).2 ⟨_, rfl, denotes⟩] at shown
  exact ⟨found, proper, shown⟩

/-- Not every value that was sent is shown: a document of markup is not. -/
theorem ofRow_shows_none :
    ¬ ∀ (columns : List Column) (row : Row) (i : Nat) (bytes : List UInt8),
      i < columns.length → sent row i = some bytes → (ofRow columns row)[i]? ≠ some .null := by
  intro shown
  refine shown [⟨"x", "xml"⟩] [some (Wire.text "<a/>")] 0 (Wire.text "<a/>") (by decide) rfl ?_
  rw [getElem?_ofRow]
  simp [sent, ofValue, ofBytes]

end Tenancy.Cell
