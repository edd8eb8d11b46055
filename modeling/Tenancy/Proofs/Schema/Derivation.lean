import Tenancy.Proofs.Path.Grammar
import Tenancy.Proofs.Schema.Vocabulary
import Tenancy.Proofs.Sql.Body

/-!
# Computations of derived columns

The body of a table's function assigns a computation to each derived column. Whatever the path of the
column, the computation is code with literals, and its code names no table: `telling_expression`.
-/

namespace Tenancy.Schema
open Text Sql

/-! ## Paths -/

/-- A character that can stand in a literal without ending it, and is no dollar sign. -/
def isQuiet (c : Char) : Bool := c ≠ apostrophe && c ≠ '\\' && c ≠ '$'

/-- A character of keys does not end a literal. -/
lemma isQuiet_of_isKeyChar {c : Char} (h : isKeyChar c) : isQuiet c :=
  isNameChar_induction (isQuiet · = true) (by decide) h

/-- The elements of a path are made of the characters of keys. -/
lemma isKeyChar_read {text : String} {path : Path} (h : Path.read text = .ok path) :
    ∀ s ∈ path.segments, s.element ≠ "" ∧ s.element.toList.all isKeyChar := by
  obtain ⟨cs, -, spells⟩ := Path.read_eq_ok.1 h
  exact fun s mem => (spells.proper s mem).element

/-- What holds of all characters of some texts and of those between them holds of them all. -/
lemma all_intercalate {q : Char → Bool} {between : List Char} {texts : List (List Char)}
    (hb : between.all q) (h : ∀ s ∈ texts, s.all q) : (between.intercalate texts).all q := by
  induction texts with
  | nil => rfl
  | cons s texts ih =>
    obtain ⟨head, tail⟩ := List.forall_mem_cons.1 h
    cases texts with
    | nil => rwa [List.intercalate_singleton]
    | cons t texts =>
      rw [List.intercalate_cons_cons, List.all_append, List.all_append, head, hb, ih tail]
      rfl

/-- The elements of a path, from the document inwards. -/
def Path.elements (p : Path) : List String := p.segments.map Segment.element

/-- The array that a path's literal spells. -/
def Path.array (p : Path) : List Char := '{' :: ((",".intercalate p.elements).toList ++ ['}'])

/-- The literal of a path is its array between two marks. -/
lemma Path.toList_literal (p : Path) : p.literal.toList = apostrophe :: (p.array ++ [apostrophe]) := by
  simp [literal, array, elements, apostrophe]

/-- Nor does any character of the array. -/
lemma isQuiet_array {text : String} {path : Path} (h : Path.read text = .ok path) :
    path.array.all isQuiet := by
  have elements : (",".intercalate path.elements).toList.all isQuiet := by
    rw [String.toList_intercalate]
    refine all_intercalate (by decide) fun chars written => ?_
    obtain ⟨s, element, rfl⟩ := List.mem_map.1 written
    obtain ⟨segment, mem, rfl⟩ := List.mem_map.1 element
    exact all_of_imp (fun _ => isQuiet_of_isKeyChar) (isKeyChar_read h segment mem).2
  rw [Path.array, List.all_cons, List.all_append, elements]
  decide

/-- A character that would is not in the array. -/
lemma not_mem_array {text : String} {path : Path} (h : Path.read text = .ok path) {c : Char}
    (loud : isQuiet c = false) : c ∉ path.array := by
  intro mem
  rw [List.all_eq_true.1 (isQuiet_array h) c mem] at loud
  cases loud

/-- The literal of a path tells no words. -/
lemma telling_literal {Q : List Char → Prop} {text : String} {path : Path}
    (h : Path.read text = .ok path) : Telling Q path.literal.toList := by
  rw [path.toList_literal]
  refine .literal (not_mem_array h (by decide)) (not_mem_array h (by decide)) ?_
  exact isUntagged_append (isUntagged_of_not_mem (not_mem_array h (by decide))) (by decide)

/-! ## Computations -/

/-- Whether a text is code that names no table and that rules leave alone. -/
def Mute (cs : List Char) : Prop :=
  cs ≠ [] ∧ cs.all isInert ∧
    ∀ w ∈ words cs, w.map Char.toLower ∉ soughtWords ∧ Neutral (w.map Char.toLower)
deriving Decidable

/-- What is told of bodies: that their words are neutral. -/
def Quiet (w : List Char) : Prop := Neutral (lower w)

/-- The words of code that names no table are quiet. -/
lemma Mute.quiet {cs : List Char} (h : Mute cs) : ∀ w ∈ words cs, Quiet w := by
  intro w mem
  have ascii : w.all isAscii := List.all_eq_true.2 fun c memc =>
    List.all_eq_true.1 (isAscii_of_isInert h.2.1) c (mem_of_mem_words mem memc)
  rw [Quiet, lower_of_isAscii ascii]
  exact (h.2.2 w mem).2

/-- Such code tells its words, which are quiet. -/
lemma Mute.telling {cs : List Char} (h : Mute cs) : Telling Quiet cs :=
  .code h.1 (isBare_of_isInert h.2.1) h.quiet

/-- It may stand in front of quiet code, if no word goes on there. -/
lemma Mute.lead {cs ds : List Char} (h : Mute cs) (ends : cs.getLast?.any isWord = false)
    (hd : Telling Quiet ds) : Telling Quiet (cs ++ ds) :=
  .lead h.1 (isBare_of_isInert h.2.1) h.quiet ends hd

/-- How assignments, computations and their parts start. -/
def openings : List String :=
  ["    NEW.", "NEW.json_data #> ", "(NEW.json_data #>> ", "jsonb_typeof(", "CASE WHEN "]

/-- What stands between the parts of an assignment. -/
def joints : List String :=
  [" := ", ") = ", " ~ ", "::numeric BETWEEN ", " AND ", "::", " THEN "]

/-- How they end. -/
def closings : List String := [")", " END", ";\n"]

/-- What opens a part of an expression names no table and ends with no word. -/
lemma openings_mute : ∀ s ∈ openings, Mute s.toList ∧ s.toList.getLast?.any isWord = false := by
  decide

/-- What joins two parts names none either, and no word goes on at either of its ends. -/
lemma joints_mute : ∀ s ∈ joints, Mute s.toList ∧ s.toList.getLast?.any isWord = false ∧
    s.toList.head?.any isWord = false ∧ s.toList.head? ≠ some apostrophe := by
  decide

/-- Nor does what closes a part, and no word goes on there. -/
lemma closings_mute : ∀ s ∈ closings, Mute s.toList ∧ s.toList.head?.any isWord = false ∧
    s.toList.head? ≠ some apostrophe := by
  decide

/-- An expression stays quiet with an opening in front of it. -/
lemma telling_opening {s : String} (mem : s ∈ openings) {cs : List Char} (h : Telling Quiet cs) :
    Telling Quiet (s.toList ++ cs) :=
  (openings_mute s mem).1.lead (openings_mute s mem).2 h

/-- Two quiet expressions stay quiet when they are joined. -/
lemma telling_joint {s : String} (mem : s ∈ joints) {cs ds : List Char} (hc : Telling Quiet cs)
    (hd : Telling Quiet ds) : Telling Quiet (cs ++ (s.toList ++ ds)) := by
  obtain ⟨mute, ends, starts, mark⟩ := joints_mute s mem
  obtain ⟨c, more, eq⟩ := List.exists_cons_of_ne_nil mute.1
  refine hc.append (mute.lead ends hd) (by simp [mute.1]) ?_ ?_
  · rw [eq] at starts ⊢
    exact starts
  · rw [eq] at mark ⊢
    exact mark

/-- An expression stays quiet with a closing behind it. -/
lemma telling_closing {s : String} (mem : s ∈ closings) {cs : List Char} (h : Telling Quiet cs) :
    Telling Quiet (cs ++ s.toList) := by
  obtain ⟨mute, starts, mark⟩ := closings_mute s mem
  exact h.append mute.telling mute.1 starts mark

section Computation
variable {value text : String}

/-- A test for a kind of value is quiet if the value is. -/
lemma telling_kind (hv : Telling Quiet value.toList) {name : String}
    (quiet : name.toList.all isQuiet) :
    Telling Quiet ((ValueTest.kind name).sql value text).toList := by
  have absent {c : Char} (loud : isQuiet c = false) : c ∉ name.toList := by
    intro mem
    rw [List.all_eq_true.1 quiet c mem] at loud
    cases loud
  have literal : Telling Quiet (apostrophe :: (name.toList ++ [apostrophe])) := by
    refine .literal (absent (by decide)) (absent (by decide)) (isUntagged_append ?_ (by decide))
    exact isUntagged_of_not_mem (absent (by decide))
  have whole : ((ValueTest.kind name).sql value text).toList =
      "jsonb_typeof(".toList ++ (value.toList ++ (") = ".toList ++
        (apostrophe :: (name.toList ++ [apostrophe])))) := by
    change ("jsonb_typeof(" ++ value ++ ") = '" ++ name ++ "'").toList = _
    simp [apostrophe]
  rw [whole]
  exact telling_opening (by decide) (telling_joint (by decide) hv literal)

/-- A test for the text of a whole number is quiet if the text is. -/
lemma telling_integerText (ht : Telling Quiet text.toList) :
    Telling Quiet (ValueTest.integerText.sql value text).toList := by
  have literal : Telling Quiet (apostrophe :: ("^-?[0-9]+$".toList ++ [apostrophe])) :=
    .literal (by decide) (by decide) (by decide)
  have whole : (ValueTest.integerText.sql value text).toList =
      text.toList ++ (" ~ ".toList ++ (apostrophe :: ("^-?[0-9]+$".toList ++ [apostrophe]))) := by
    change (text ++ " ~ '^-?[0-9]+$'").toList = _
    simp [apostrophe]
  rw [whole]
  exact telling_joint (by decide) ht literal

/-- The least number of 64 bits, written out. -/
lemma toString_minInt64 : toString minInt64 = "-9223372036854775808" := by decide

/-- The greatest number of 64 bits, written out. -/
lemma toString_maxInt64 : toString maxInt64 = "9223372036854775807" := by decide

/-- A test for a number of 64 bits is quiet if the text is. -/
lemma telling_between (ht : Telling Quiet text.toList) :
    Telling Quiet ((ValueTest.between minInt64 maxInt64).sql value text).toList := by
  have bounds : Mute "9223372036854775808".toList ∧ Mute "9223372036854775807".toList := by
    decide
  have low : Telling Quiet ('-' :: "9223372036854775808".toList) :=
    .dash (by decide) bounds.1.1 bounds.1.telling
  have whole : ((ValueTest.between minInt64 maxInt64).sql value text).toList =
      text.toList ++ ("::numeric BETWEEN ".toList ++
        ('-' :: "9223372036854775808".toList ++ (" AND ".toList ++
          "9223372036854775807".toList))) := by
    change (text ++ "::numeric BETWEEN " ++ toString minInt64 ++ " AND " ++
      toString maxInt64).toList = _
    rw [toString_minInt64, toString_maxInt64]
    simp
  rw [whole]
  exact telling_joint (by decide) ht (telling_joint (by decide) low bounds.2.telling)

/-- A cast to a type is quiet if the text and the type are. -/
lemma telling_cast (ht : Telling Quiet text.toList) {type : String} (mute : Mute type.toList) :
    Telling Quiet ((Derivation.cast type).sql value text).toList := by
  have whole : ((Derivation.cast type).sql value text).toList =
      text.toList ++ ("::".toList ++ type.toList) := by
    change (text ++ "::" ++ type).toList = _
    simp
  rw [whole]
  exact telling_joint (by decide) ht mute.telling

/-- Several tests are quiet if each of them is. -/
lemma telling_tests {tests : List ValueTest} (some : tests ≠ [])
    (h : ∀ t ∈ tests, Telling Quiet (t.sql value text).toList) :
    Telling Quiet (" AND ".intercalate (tests.map (·.sql value text))).toList := by
  induction tests with
  | nil => exact absurd rfl some
  | cons t tests ih =>
    obtain ⟨head, tail⟩ := List.forall_mem_cons.1 h
    cases tests with
    | nil => rwa [List.map_singleton, String.intercalate_singleton]
    | cons u tests =>
      rw [List.map_cons, String.intercalate_cons_of_ne_nil (by simp), String.toList_append,
        String.toList_append, List.append_assoc]
      exact telling_joint (by decide) head (ih (by simp) tail)

/-- A value under a condition is quiet if the tests and the value are. -/
lemma telling_given {tests : List ValueTest} {result : Derivation} (some : tests ≠ [])
    (ht : ∀ t ∈ tests, Telling Quiet (t.sql value text).toList)
    (hr : Telling Quiet (result.sql value text).toList) :
    Telling Quiet ((Derivation.given tests result).sql value text).toList := by
  have whole : ((Derivation.given tests result).sql value text).toList =
      "CASE WHEN ".toList ++ ((" AND ".intercalate (tests.map (·.sql value text))).toList ++
        (" THEN ".toList ++ ((result.sql value text).toList ++ " END".toList))) := by
    change ("CASE WHEN " ++ " AND ".intercalate (tests.map (·.sql value text)) ++
      (" THEN " ++ result.sql value text ++ " END")).toList = _
    simp
  rw [whole]
  exact telling_opening (by decide)
    (telling_joint (by decide) (telling_tests some ht) (telling_closing (by decide) hr))

/-- The expression of a derived column is quiet if the value and the text are. -/
lemma telling_derivation (hv : Telling Quiet value.toList) (ht : Telling Quiet text.toList)
    (type : ColumnType) : Telling Quiet (type.derivation.sql value text).toList := by
  have types : Mute "bigint".toList ∧ Mute "boolean".toList := by decide
  cases type with
  | text => exact ht
  | integer =>
    refine telling_given (by simp) ?_ (telling_given (by simp) ?_ (telling_cast ht types.1))
    · simp only [List.forall_mem_cons]
      exact ⟨telling_kind hv (by decide), telling_integerText ht, by simp⟩
    · simp only [List.forall_mem_cons]
      exact ⟨telling_between ht, by simp⟩
  | boolean =>
    refine telling_given (by simp) ?_ (telling_cast ht types.2)
    simp only [List.forall_mem_cons]
    exact ⟨telling_kind hv (by decide), by simp⟩

/-- The computation of a derived column from the document that is written is code with literals that
names no table. -/
theorem telling_expression {c : DerivedColumn} (h : c.expression s!"NEW.{documentColumn}" = .ok value) :
    Telling Quiet value.toList := by
  rcases read : Path.read c.path with fault | path
  · rw [DerivedColumn.expression, Path.parse, read] at h
    cases h
  · rw [DerivedColumn.expression, Path.parse, read] at h
    cases h
    have literal : Telling Quiet path.literal.toList := telling_literal read
    let source := s!"NEW.{documentColumn}"
    refine telling_derivation ?_ ?_ c.type
    · have whole : s!"{source} #> {path.literal}".toList =
          "NEW.json_data #> ".toList ++ path.literal.toList := by
        simp [source, documentColumn, toString]
      rw [whole]
      exact telling_opening (by decide) literal
    · have whole : s!"({source} #>> {path.literal})".toList =
          "(NEW.json_data #>> ".toList ++ (path.literal.toList ++ ")".toList) := by
        simp [source, documentColumn, toString]
      rw [whole]
      exact telling_opening (by decide) (telling_closing (by decide) literal)

end Computation
end Tenancy.Schema
