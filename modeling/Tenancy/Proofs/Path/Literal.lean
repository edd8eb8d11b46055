import Tenancy.Proofs.Expression.Computation
import Tenancy.Proofs.Expression.Meaning

/-!
# What the literal of a path denotes

The server reads the literal of a path as an array with an element for each segment (`readElements_array`): the key
or the digits of the index, except that a key which spells null is no element but an absent one. So the literal
denotes the path exactly if no key spells null, and otherwise it leads nowhere in any document
(`Path.literal_denotes_iff`).
-/

namespace Tenancy
open Text Expression

/-- A path with an absent element leads nowhere. -/
lemma Jsonb.at?_of_absent {elements : List (Option String)} (absent : none ∈ elements) (d : Jsonb) :
    d.at? elements = none := by
  have stops : elements.mapM id = none := by
    induction elements with
    | nil => cases absent
    | cons s elements ih =>
      rw [List.mapM_cons]
      cases s with
      | none => rfl
      | some s =>
        rw [ih (by simpa using absent)]
        rfl
  rw [at?, stops]
  rfl

namespace Schema

/-- Whether no key of a path spells null. -/
def Path.Named (p : Path) : Prop := ∀ name, .key name ∈ p.segments → spellsNull name.toList = false

/-- What the server takes a word in an array for. -/
def element? (s : String) : Option String := if spellsNull s.toList then none else some s

/-- An element is read as it is, unless it spells null. -/
lemma element?_eq_some_iff {s : String} : element? s = some s ↔ spellsNull s.toList = false := by
  unfold element?
  cases spellsNull s.toList with
  | false => simp
  | true => simp

/-- No index spells null. -/
lemma spellsNull_toString (i : Nat) : spellsNull (toString i).toList = false := by
  have digits : (toString i).toList = Nat.toDigits 10 i := by simp [Nat.repr]
  have all := all_isDigit_toDigits i
  have lower : (Nat.toDigits 10 i).map Char.toLower = Nat.toDigits 10 i :=
    map_toLower_of_isPrefixChar (all_of_imp (fun c digit => by simp [isPrefixChar, digit]) all)
  apply decide_eq_false
  rw [digits, lower]
  intro null
  rw [null] at all
  cases all

/-- All elements of a path are there exactly if no key spells null. -/
lemma Path.map_element?_iff {p : Path} : p.elements.map element? = p.elements.map some ↔ p.Named := by
  rw [List.map_inj_left]
  simp only [element?_eq_some_iff]
  constructor
  · exact fun there name mem => there name (List.mem_map_of_mem mem)
  · intro named s element
    obtain ⟨segment, mem, rfl⟩ := List.mem_map.1 element
    cases segment with
    | key name => exact named name mem
    | index i => exact spellsNull_toString i

section Literal
variable {text : String} {p : Path} (h : Path.read text = .ok p)
include h

/-- The elements of a path stand in its literal as they are. -/
lemma readElement_element : ∀ s ∈ p.elements, readElement s.toList = .ok (element? s) := by
  intro s element
  obtain ⟨segment, mem, rfl⟩ := List.mem_map.1 element
  obtain ⟨some, key⟩ := isKeyChar_read h segment mem
  have plain : segment.element.toList.all isElementChar :=
    all_of_imp (fun c key => by rw [isElementChar, show Sql.isNameChar c from key, Bool.true_or]) key
  rw [readElement, if_neg (by simp [some, plain]), String.ofList_toList]
  rfl

/-- The array in the literal of a path is read element by element. -/
lemma readElements_array : readElements (String.ofList p.array) = .ok (p.elements.map element?) := by
  have each {names : List String} (h : ∀ s ∈ names, readElement s.toList = .ok (element? s)) :
      (names.map String.toList).mapM readElement = .ok (names.map element?) := by
    induction names with
    | nil => rfl
    | cons s names ih =>
      obtain ⟨head, tail⟩ := List.forall_mem_cons.1 h
      rw [List.map_cons, List.mapM_cons, head, ih tail]
      rfl
  have split : (",".intercalate p.elements).toList.splitOn ',' = p.elements.map String.toList := by
    rw [String.toList_intercalate]
    apply List.splitOn_intercalate
    · intro chars written comma
      obtain ⟨s, element, rfl⟩ := List.mem_map.1 written
      obtain ⟨segment, mem, rfl⟩ := List.mem_map.1 element
      cases List.all_eq_true.1 (isKeyChar_read h segment mem).2 ',' comma
    · simp [Path.elements, Path.segments]
  rw [readElements, String.toList_ofList, Path.array]
  change (if _ then _ else _) = _
  rw [if_pos List.getLast?_concat, List.dropLast_concat, split, each (readElement_element h)]

/-- The literal of a path is a literal to the server as well. -/
lemma read?_literal : Expression.read? p.literal = some (.literal (String.ofList p.array)) := by
  have literal := Token.scans_literal (not_mem_array h (by decide))
    (show Token.start ' ' = some ([], .nothing) from rfl)
  have whole : p.literal.toList ++ [' '] = Sql.apostrophe :: (p.array ++ [Sql.apostrophe, ' ']) := by
    simp [p.toList_literal]
  rw [← whole] at literal
  exact read?_of_scans literal rfl

end Literal

/-- The server reads the literal of a path as a text with an array of words in it, one for each segment, and takes a
key that spells null for no word. It is the array of the keys and indexes of the path exactly if no key spells null;
otherwise the path leads nowhere in any document. -/
theorem Path.literal_denotes_iff {text : String} {p : Path} (parsed : Path.parse text = .ok p) :
    ∃ array, Expression.read? p.literal = some (.literal array) ∧
      readElements array = .ok (p.segments.map fun s =>
        if spellsNull s.element.toList then none else some s.element) ∧
      (readElements array = .ok (p.segments.map fun s => some s.element) ↔ p.Named) ∧
      (¬ p.Named → ∀ d : Jsonb, Datum.follow .document array (.document d) = .ok .null) := by
  have read := Path.parse_eq_ok.1 parsed
  have elements := readElements_array read
  refine ⟨_, read?_literal read, ?_, ?_, ?_⟩
  · rw [elements, Path.elements, List.map_map]
    rfl
  · rw [elements, ← Path.map_element?_iff, Except.ok.injEq, Path.elements, List.map_map, List.map_map]
    rfl
  · intro unnamed d
    have absent : none ∈ p.elements.map element? := by
      obtain ⟨name, mem, null⟩ : ∃ name, .key name ∈ p.segments ∧ spellsNull name.toList := by
        simpa [Path.Named] using unnamed
      exact List.mem_map.2 ⟨name, List.mem_map_of_mem mem, if_pos null⟩
    rw [Datum.follow, elements]
    change Except.ok ((d.at? (p.elements.map element?)).elim Datum.null .document) = _
    rw [Jsonb.at?_of_absent absent]
    rfl

/-- A key is not null because it starts so, and an index is an element like a key. -/
theorem Path.literal_denotes_nulls :
    let p : Path := ⟨.key "nulls", [.index 0]⟩
    Path.parse "$.nulls[0]" = .ok p ∧ p.Named ∧
      ∃ array, Expression.read? p.literal = some (.literal array) ∧
        readElements array = .ok [some "nulls", some "0"] := by
  intro p
  have proper : ∀ s ∈ p.segments, s.Proper := by
    refine List.forall_mem_cons.2 ⟨⟨by decide, by decide⟩, List.forall_mem_singleton.2 ?_⟩
    show 0 < 2 ^ 64
    decide
  have parsed : Path.parse p.text = .ok p := Path.parse_text proper
  have named : p.Named := by
    intro name mem
    obtain rfl : name = "nulls" := by simpa [p, Path.segments] using mem
    decide
  obtain ⟨array, read, -, denotes, -⟩ := Path.literal_denotes_iff parsed
  exact ⟨parsed, named, array, read, denotes.2 named⟩

/-- What a path to the key null has in its literal is not that key. -/
theorem Path.literal_of_null :
    let p : Path := ⟨.key "null", []⟩
    Path.parse "$.null" = .ok p ∧ p.literal = "'\x7bnull\x7d'" ∧
      Expression.read? p.literal = some (.literal "\x7bnull\x7d") ∧
      readElements "\x7bnull\x7d" = .ok [none] ∧ [none] ≠ p.segments.map fun s => some s.element := by
  intro p
  have parsed : Path.parse p.text = .ok p :=
    Path.parse_text (List.forall_mem_singleton.2 ⟨by decide, by decide⟩)
  have read := Path.parse_eq_ok.1 parsed
  have array : String.ofList p.array = "\x7bnull\x7d" := by decide
  have null : p.elements.map element? = [none] := by decide
  rw [← array, ← null]
  exact ⟨parsed, by decide, read?_literal read, readElements_array read, by decide +kernel⟩

end Schema
end Tenancy
