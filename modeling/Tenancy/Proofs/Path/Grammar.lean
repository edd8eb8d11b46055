import Mathlib.Algebra.Group.Nat.Defs
import Mathlib.Data.List.TakeWhile
import Mathlib.Tactic.Lemma
import Tenancy.Proofs.Text.Numerals
import Tenancy.Proofs.Text.Words
import Tenancy.Schema.Path

/-!
# The grammar of paths

A path is a dollar sign with segments behind it, one or more. `Path.Takes` says what a segment takes off a text,
and `Path.Spells` repeats that until nothing is left. Reading goes by the same rounds (`readSegments_cons`): each
of them takes what the grammar says (`readSegment_eq_ok`), so a text is read as what it spells
(`readSegments_eq_ok`), and each of them takes two characters or more, so that there is an end to them
(`rounds_eq`). `Path.parse_exact` puts this together with the way back: what is written of a path is read as the
same path.
-/

namespace Tenancy.Schema
open Text

/-! ## The grammar -/

/-- Whether a segment can be spelled: a key has characters, which are those of keys, and an index has sixty-four
bits. -/
def Segment.Proper : Segment → Prop
  | .key name => name ≠ "" ∧ name.toList.all isKeyChar
  | .index i => i < 2 ^ 64

/-- A segment that can be spelled is an element made of the characters of keys. -/
lemma Segment.Proper.element {s : Segment} (h : s.Proper) :
    s.element ≠ "" ∧ s.element.toList.all isKeyChar := by
  cases s with
  | key name => exact h
  | index i =>
    have digits : (Segment.index i).element.toList = Nat.toDigits 10 i := by
      simp [Segment.element, Nat.repr]
    constructor
    · intro empty
      rw [empty] at digits
      exact Nat.toDigits_ne_nil digits.symm
    · rw [digits]
      refine List.all_eq_true.2 fun c mem => ?_
      simp [isKeyChar, Char.isAlphanum, List.all_eq_true.1 (all_isDigit_toDigits i) c mem]

namespace Path

/-- Whether a text starts with a segment, and what stands behind it. -/
inductive Takes : List Char → Segment → List Char → Prop where
  /-- A dot and a key: characters of keys, as far as there are any. -/
  | key {name rest : List Char} (some : name ≠ []) (all : name.all isKeyChar)
      (ends : rest.head?.any isKeyChar = false) :
    Takes ('.' :: (name ++ rest)) (.key (String.ofList name)) rest
  /-- A number of sixty-four bits between brackets. -/
  | index {numeral rest : List Char} {i : Nat} (number : Natural numeral i) (fits : i < 2 ^ 64) :
    Takes ('[' :: (numeral ++ ']' :: rest)) (.index i) rest

/-- Whether a text is some segments, one behind the other. -/
inductive Spells : List Char → List Segment → Prop where
  | done : Spells [] []
  | more {cs rest : List Char} {s : Segment} {segments : List Segment} (first : Takes cs s rest)
      (follows : Spells rest segments) : Spells cs (s :: segments)

/-- A segment that is read is proper. -/
lemma Takes.proper {cs rest : List Char} {s : Segment} (h : Takes cs s rest) : s.Proper := by
  cases h with
  | @key name _ some all ends =>
    refine ⟨fun empty => some ?_, ?_⟩
    · simpa using congrArg String.toList empty
    · rwa [String.toList_ofList]
  | index number fits => exact fits

/-- So are all segments that are spelled. -/
lemma Spells.proper {cs : List Char} {segments : List Segment} (h : Spells cs segments) :
    ∀ s ∈ segments, s.Proper := by
  induction h with
  | done => simp
  | more first follows ih => exact List.forall_mem_cons.2 ⟨first.proper, ih⟩

/-! ## Rounds of reading -/

/-- What a round of reading takes off a text: a segment, and what is left. -/
def readSegment : List Char → Except PathFault (Segment × List Char)
  | '.' :: cs =>
    if cs.takeWhile isKeyChar = [] then .error .emptyKey
    else .ok (.key (String.ofList (cs.takeWhile isKeyChar)), cs.dropWhile isKeyChar)
  | '[' :: cs =>
    match cs.dropWhile (· ≠ ']') with
    | [] => .error .unclosedBracket
    | _ :: after =>
      match readNatural? maxWord64 (cs.takeWhile (· ≠ ']')) with
      | some i => .ok (.index i, after)
      | none => .error .badIndex
  | _ => .error .noSegment

/-- The empty text has no segments. -/
lemma readSegments_nil : readSegments [] = .ok [] := by rw [readSegments]

/-- Segments are read round by round. -/
lemma readSegments_cons (c : Char) (cs : List Char) :
    readSegments (c :: cs) =
      (readSegment (c :: cs)).bind fun r => (readSegments r.2).map (r.1 :: ·) := by
  by_cases dot : c = '.'
  · subst dot
    rw [readSegments, readSegment]
    by_cases empty : cs.takeWhile isKeyChar = []
    · rw [if_pos empty, empty]
      rfl
    · rw [if_neg empty, if_neg (by simpa using empty)]
      exact bind_pure_comp _ (readSegments (cs.dropWhile isKeyChar))
  by_cases bracket : c = '['
  · subst bracket
    rw [readSegments, readSegment]
    split
    · next unclosed =>
      simp only [unclosed]
      rfl
    · next closing after eq =>
      simp only [eq]
      cases readNatural? maxWord64 (cs.takeWhile fun c => decide (c ≠ ']')) with
      | none => rfl
      | some i => exact bind_pure_comp _ (readSegments after)
  · rw [readSegments, readSegment]
    · rfl
    · exact fun _ eq => dot (List.cons.inj eq).1
    · exact fun _ eq => bracket (List.cons.inj eq).1
    · exact dot
    · exact bracket

/-- A round takes what the grammar says. -/
lemma readSegment_eq_ok {cs rest : List Char} {s : Segment} :
    readSegment cs = .ok (s, rest) ↔ Takes cs s rest := by
  constructor
  · intro read
    unfold readSegment at read
    split at read
    · next cs =>
      split at read
      · cases read
      · next some =>
        cases read
        have key := Takes.key some List.all_takeWhile (any_head_dropWhile isKeyChar cs)
        rwa [List.takeWhile_append_dropWhile] at key
    · next cs =>
      split at read
      · cases read
      · next closing after eq =>
        split at read
        · next i number =>
          cases read
          obtain ⟨natural, fits⟩ := readNatural?_eq_some.1 number
          have whole := List.takeWhile_append_dropWhile (p := fun c => decide (c ≠ ']')) (l := cs)
          have closes := any_head_dropWhile (fun c => decide (c ≠ ']')) cs
          rw [eq] at whole closes
          obtain rfl : closing = ']' := by simpa using closes
          rw [← whole]
          exact .index natural (Nat.lt_succ_of_le fits)
        · cases read
    · cases read
  · intro takes
    cases takes with
    | @key name _ some all ends =>
      have stops : rest.takeWhile isKeyChar = [] ∧ rest.dropWhile isKeyChar = rest := by
        cases rest with
        | nil => exact ⟨rfl, rfl⟩
        | cons c rest =>
          have other : ¬ isKeyChar c := by simpa using ends
          exact ⟨List.takeWhile_cons_of_neg other, List.dropWhile_cons_of_neg other⟩
      have pass := List.all_eq_true.1 all
      rw [readSegment, List.takeWhile_append_of_pos pass, List.dropWhile_append_of_pos pass, stops.1,
        stops.2, List.append_nil, if_neg some]
    | @index numeral _ i number fits =>
      have pass : ∀ c ∈ numeral, decide (c ≠ ']') := by
        intro c mem
        apply decide_eq_true
        rintro rfl
        rcases number.all_isDigit _ mem with digit | plus
        · cases digit
        · cases plus
      have read : readNatural? maxWord64 numeral = some i :=
        readNatural?_eq_some.2 ⟨number, Nat.le_of_lt_succ fits⟩
      simp only [readSegment, List.takeWhile_append_of_pos pass, List.dropWhile_append_of_pos pass]
      simp [read]

/-- What is read of a text is what its first round takes and what is read of the rest. -/
lemma readSegments_cons_eq_ok {c : Char} {cs : List Char} {segments : List Segment} :
    readSegments (c :: cs) = .ok segments ↔ ∃ s rest more, readSegment (c :: cs) = .ok (s, rest) ∧
      readSegments rest = .ok more ∧ segments = s :: more := by
  rw [readSegments_cons]
  constructor
  · intro read
    rcases first : readSegment (c :: cs) with fault | ⟨s, rest⟩
    · rw [first] at read
      cases read
    · rw [first] at read
      change (readSegments rest).map _ = _ at read
      rcases found : readSegments rest with fault | more
      · rw [found] at read
        cases read
      · rw [found] at read
        cases read
        exact ⟨s, rest, more, rfl, found, rfl⟩
  · rintro ⟨s, rest, more, first, found, rfl⟩
    rw [first]
    change (readSegments rest).map _ = _
    rw [found]
    rfl

/-- Segments are read as the grammar has them, from left to right. -/
theorem readSegments_eq_ok {cs : List Char} {segments : List Segment} :
    readSegments cs = .ok segments ↔ Spells cs segments := by
  constructor
  · intro read
    induction segments generalizing cs with
    | nil =>
      cases cs with
      | nil => exact .done
      | cons c cs =>
        obtain ⟨s, rest, more, -, -, eq⟩ := readSegments_cons_eq_ok.1 read
        cases eq
    | cons s segments ih =>
      cases cs with
      | nil =>
        rw [readSegments_nil] at read
        cases read
      | cons c cs =>
        obtain ⟨_, rest, _, first, found, eq⟩ := readSegments_cons_eq_ok.1 read
        cases eq
        exact .more (readSegment_eq_ok.1 first) (ih found)
  · intro spells
    induction spells with
    | done => exact readSegments_nil
    | @more cs rest s segments first follows ih =>
      cases cs with
      | nil => cases first
      | cons c cs =>
        exact readSegments_cons_eq_ok.2 ⟨s, rest, segments, readSegment_eq_ok.2 first, ih, rfl⟩

/-- Reading in rounds, of which there are so many at most: each puts a segment behind those found so far. There is
no answer if the rounds run out. -/
def rounds : Nat → List Segment → List Char → Option (Except PathFault (List Segment))
  | 0, _, _ => none
  | _ + 1, found, [] => some (.ok found)
  | n + 1, found, c :: cs =>
    match readSegment (c :: cs) with
    | .error fault => some (.error fault)
    | .ok (s, rest) => rounds n (found ++ [s]) rest

/-- A segment has two characters or more. -/
lemma Takes.length_le {cs rest : List Char} {s : Segment} (h : Takes cs s rest) :
    rest.length + 2 ≤ cs.length := by
  cases h with
  | key some _ _ =>
    have length := List.length_pos_iff.2 some
    simp only [List.length_cons, List.length_append]
    omega
  | index _ _ =>
    simp only [List.length_cons, List.length_append]
    omega

/-- Reading ends, after no more rounds than there are pairs of characters, and finds the segments in the order in
which they stand. -/
theorem rounds_eq {n : Nat} {cs : List Char} (enough : cs.length < 2 * n) (found : List Segment) :
    rounds n found cs = some ((readSegments cs).map (found ++ ·)) := by
  induction n generalizing cs found with
  | zero => omega
  | succ n ih =>
    cases cs with
    | nil => simp [rounds, readSegments_nil, Except.map]
    | cons c cs =>
      rw [rounds, readSegments_cons]
      rcases first : readSegment (c :: cs) with fault | ⟨s, rest⟩
      · rfl
      · have shorter := (readSegment_eq_ok.1 first).length_le
        change rounds n (found ++ [s]) rest = some (((readSegments rest).map (s :: ·)).map (found ++ ·))
        rw [ih (by omega)]
        rcases readSegments rest with fault | more
        · rfl
        · simp [Except.map]

/-! ## Paths -/

/-- A path is read from a dollar sign and what spells its segments. -/
lemma read_eq_ok {text : String} {p : Path} :
    read text = .ok p ↔ ∃ cs, text.toList = '$' :: cs ∧ Spells cs p.segments := by
  simp only [← readSegments_eq_ok]
  unfold read
  split
  · next cs eq =>
    constructor
    · intro found
      rcases segments : readSegments cs with fault | _ | ⟨first, rest⟩
      · rw [segments] at found
        cases found
      · rw [segments] at found
        cases found
      · rw [segments] at found
        cases found
        exact ⟨cs, eq, segments⟩
    · rintro ⟨cs', eq', found⟩
      obtain rfl : cs = cs' := by simpa [eq] using eq'
      rw [found]
      rfl
  · next other => exact iff_of_false nofun fun ⟨cs, eq, _⟩ => other cs eq

/-- A path is parsed if it is read. -/
lemma parse_eq_ok {text : String} {p : Path} : parse text = .ok p ↔ read text = .ok p := by
  unfold parse
  rcases read text with fault | found
  · exact iff_of_false nofun nofun
  · exact ⟨fun h => by cases h; rfl, fun h => by cases h; rfl⟩

/-! ## The way back -/

/-- A key is written behind a point. -/
lemma toList_text_key (name : String) : (Segment.key name).text.toList = '.' :: name.toList := by
  simp [Segment.text, toString]

/-- An index is written between brackets. -/
lemma toList_text_index (i : Nat) :
    (Segment.index i).text.toList = '[' :: (Nat.toDigits 10 i ++ [']']) := by
  simp [Segment.text, toString, Nat.repr]

/-- A path is written with its segments behind a dollar sign. -/
lemma toList_text (p : Path) : p.text.toList = '$' :: p.segments.flatMap (·.text.toList) := by
  rw [text, String.toList_append, String.toList_join, List.flatMap_map]
  rfl

/-- What is written of segments does not start with a character of a key. -/
lemma any_head_text (segments : List Segment) :
    (segments.flatMap (·.text.toList)).head?.any isKeyChar = false := by
  cases segments with
  | nil => rfl
  | cons s segments =>
    cases s with
    | key name =>
      rw [List.flatMap_cons, toList_text_key]
      show isKeyChar '.' = false
      decide
    | index i =>
      rw [List.flatMap_cons, toList_text_index]
      show isKeyChar '[' = false
      decide

/-- What is written of segments spells them. -/
lemma spells_text {segments : List Segment} (proper : ∀ s ∈ segments, s.Proper) :
    Spells (segments.flatMap (·.text.toList)) segments := by
  induction segments with
  | nil => exact .done
  | cons s segments ih =>
    obtain ⟨head, tail⟩ := List.forall_mem_cons.1 proper
    refine .more ?_ (ih tail)
    rw [List.flatMap_cons]
    cases s with
    | key name =>
      have key := Takes.key (by simpa using head.1) head.2 (any_head_text segments)
      rw [String.ofList_toList] at key
      rwa [toList_text_key]
    | index i =>
      have index : Takes _ _ (segments.flatMap (·.text.toList)) := .index (natural_toDigits i) head
      rw [toList_text_index]
      simpa using index

/-- A path that can be written is read as itself. -/
theorem parse_text {p : Path} (proper : ∀ s ∈ p.segments, s.Proper) : parse p.text = .ok p :=
  parse_eq_ok.2 (read_eq_ok.2 ⟨_, p.toList_text, spells_text proper⟩)

/-- A text that is no path is refused, with the text in the message. -/
lemma parse_cases (text : String) :
    (∃ p, parse text = .ok p) ∨ ∃ fault, parse text = .error (.schema (.path text fault)) := by
  unfold parse
  rcases read text with fault | p
  · exact .inr ⟨fault, rfl⟩
  · exact .inl ⟨p, rfl⟩

/-- A text is read as a path exactly if it is a dollar sign and the segments of that path by the grammar, and any
other text is refused; segments are read round by round, and there is an end to the rounds. What is written of a
path that was read, or of one whose segments can be spelled, is read as that path. -/
theorem parse_exact :
    (∀ text p, parse text = .ok p ↔ ∃ cs, text.toList = '$' :: cs ∧ Spells cs p.segments) ∧
    (∀ text, (∃ p, parse text = .ok p) ∨ ∃ fault, parse text = .error (.schema (.path text fault))) ∧
    (∀ cs, rounds (cs.length / 2 + 1) [] cs = some (readSegments cs)) ∧
    (∀ text p, parse text = .ok p → parse p.text = .ok p) ∧
    ∀ p : Path, (∀ s ∈ p.segments, s.Proper) → parse p.text = .ok p := by
  have exact (text : String) (p : Path) :
      parse text = .ok p ↔ ∃ cs, text.toList = '$' :: cs ∧ Spells cs p.segments :=
    parse_eq_ok.trans read_eq_ok
  refine ⟨exact, parse_cases, fun cs => ?_, fun text p parsed => ?_, fun p => parse_text⟩
  · rw [rounds_eq (by omega)]
    rcases readSegments cs with fault | segments
    · rfl
    · rfl
  · obtain ⟨cs, -, spells⟩ := (exact text p).1 parsed
    exact parse_text spells.proper

/-- A sign and zeros in front of an index are read, and not written again. -/
theorem parse_exact_zeros :
    let p : Path := ⟨.key "a", [.index 7]⟩
    parse "$.a[+007]" = .ok p ∧ p.text = "$.a[7]" ∧ parse p.text = .ok p ∧ ∀ s ∈ p.segments, s.Proper := by
  intro p
  have seven : Natural ['+', '0', '0', '7'] 7 := .plus (by decide) (by decide)
  have index : Takes ['[', '+', '0', '0', '7', ']'] (.index 7) [] := .index seven (by decide)
  have key : Takes (['.', 'a'] ++ ['[', '+', '0', '0', '7', ']']) (.key "a") ['[', '+', '0', '0', '7', ']'] :=
    @Takes.key ['a'] _ (by decide) (by decide) (by decide)
  have spells := Spells.more key (.more index .done)
  have parsed : parse "$.a[+007]" = .ok p :=
    (parse_exact.1 _ _).2 ⟨_, by decide, spells⟩
  exact ⟨parsed, by decide, parse_exact.2.2.2.1 _ _ parsed, spells.proper⟩

end Path
end Tenancy.Schema
