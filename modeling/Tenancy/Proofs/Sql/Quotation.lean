import Tenancy.Proofs.Sql.Mild
import Tenancy.Proofs.Sql.Pattern

/-!
# What is quoted goes to the server as it is

The rules for legacy statements leave what is quoted alone, and what they make of the code is cut into
lexemes where the code was: `adapt_inCode` and `forServer_inCode`. This can fail where a mark that is
put in, or a count that changes places, comes to stand right in front of a quotation that looks back at
it; `Steady` says that there is no such place.
-/

namespace Tenancy.Sql
open Text

/-! ## Places in front of quotations -/

/-- Whether the end of a stretch of code, in front of `after`, is changed by the rules to one that is
read otherwise by what looks back at it: a parameter mark, the operator for patterns, or a pair of counts
of which one ends in a character of a name and the other does not. -/
inductive Unsteady : (front after : List Char) → Prop where
  | mark {front after} : Unsteady (front ++ ['?']) after
  | regexp {front word after} :
    front.getLast?.any isWord = false →
    Reads "REGEXP" word →
    Clear after →
    Unsteady (front ++ word) after
  | pair {front skip take old after} :
    front.getLast?.any isWord = false →
    LimitPair skip take old →
    skip ≠ ['%', 's'] →
    take ≠ ['%', 's'] →
    skip.getLast?.any isNameChar ≠ take.getLast?.any isNameChar →
    Unsteady (front ++ old) after

/-- Whether a stretch of code in front of `rest` has no such end where a quotation looks back. -/
def Steady (rest cs : List Char) : Prop :=
  ∀ front back, cs = front ++ back → looksBack (back ++ rest) → ¬ Unsteady front back

/-- What the rules put in the place of parameter marks and operators. -/
def marks : List (List Char) := ["%s".toList, "!~".toList, "~".toList]

/-- Whether a mark is put in place in a way that is no matter to what follows. -/
structure Marks (_before old new after : List Char) : Prop where
  mild : Mild old new after
  mark : new ∈ marks
  flow : after.head?.any isWord → new.getLast?.any isWord

/-- To put a mark in place makes no tag of what was none. -/
lemma untagged_of_mem_marks {old new : List Char} (h : new ∈ marks) : Untagged old new := by
  have check : ∀ new ∈ marks, '$' ∉ new ∧ new.all isNameChar = false := by decide
  exact .of_not_name (check new h).1 (check new h).2

/-- To put a mark in the place of what ends in a certain way is no matter to what follows. -/
lemma Marks.of_getLast {before old new after : List Char} {c : Char} (last : old.getLast? = some c)
    (other : c ≠ 'E' ∧ c ≠ 'e') (line : old.head? ≠ some '\n') (mark : new ∈ marks)
    (looks : ¬ looksBack after) (flow : after.head?.any isWord → new.getLast?.any isWord) :
    Marks before old new after := by
  have check : ∀ new ∈ marks, new ≠ [] ∧ isPlain new ∧ new.head? ≠ some '*' ∧
      (new.getLast? = some 's' ∨ new.getLast? = some '~') := by decide
  obtain ⟨some, plain, star, ends⟩ := check new mark
  obtain ⟨d, last', other'⟩ : ∃ d, new.getLast? = Option.some d ∧ d ≠ 'E' ∧ d ≠ 'e' := by
    rcases ends with ends | ends
    · exact ⟨_, ends, by decide⟩
    · exact ⟨_, ends, by decide⟩
  refine ⟨⟨some, plain, star, line, fun back => absurd back looks, fun _ b b' => ?_⟩, mark, flow⟩
  rw [isEscapeLiteral_of_getLast last other, isEscapeLiteral_of_getLast last' other']

variable {rest cs ds : List Char}

/-- To put marks in place is quiet. -/
lemma quiet_marks : Edit.Quiet Marks cs where
  mild _ _ _ _ place := place.mild
  tags _ _ _ _ _ place := untagged_of_mem_marks place.mark

/-- A stretch of the new text that holds the end of no mark was there before, in front of the same
quotation. -/
lemma Edit.stretch {front piece back : List Char} (e : Edit Marks rest [] cs ds)
    (eq : ds = front ++ (piece ++ back)) (clear : 's' ∉ piece ∧ '~' ∉ piece)
    (looks : Sql.looksBack (back ++ rest)) :
    ∃ front' back', cs = front' ++ (piece ++ back') ∧ Sql.looksBack (back' ++ rest) ∧
      back'.head? = back.head? ∧
      (piece.head?.any isWord → front.getLast?.any isWord = false →
        front'.getLast?.any isWord = false) := by
  have ends {ending : List Char} (clear : 's' ∉ ending ∧ '~' ∉ ending) : ∀ before old new after,
      Marks before old new after → ∃ c ∉ ending, new.getLast? = some c := by
    intro before old new after place
    have check : ∀ new ∈ marks, new.getLast? = some 's' ∨ new.getLast? = some '~' := by decide
    rcases check new place.mark with last | last
    · exact ⟨'s', clear.1, last⟩
    · exact ⟨'~', clear.2, last⟩
  have flow : ∀ before old new after, Marks before old new after →
      new ≠ [] ∧ (after.head?.any isWord → new.getLast?.any isWord) :=
    fun _ _ _ _ place => ⟨place.mild.some, place.flow⟩
  -- What looks back is never put in, so the texts come apart there.
  obtain ⟨whole, back', rfl, looks', head, first⟩ : ∃ whole back', cs = whole ++ back' ∧
      Sql.looksBack (back' ++ rest) ∧ back'.head? = back.head? ∧
      Edit Marks (back' ++ rest) [] whole (front ++ piece) := by
    cases back with
    | nil =>
      refine ⟨cs, [], by simp, looks, rfl, ?_⟩
      rw [← List.append_assoc, List.append_nil] at eq
      rw [eq] at e
      exact e
    | cons c back =>
      have letter : c ∈ ['$', 'E', 'e'] := by
        rw [List.cons_append, Sql.looksBack, Bool.or_eq_true, Bool.and_eq_true, Bool.and_eq_true] at looks
        simp only [Bool.or_eq_true, decide_eq_true_eq] at looks
        rcases looks with ⟨rfl, -⟩ | ⟨rfl | rfl, -⟩ <;> simp
      have never : ∀ before old new after, Marks before old new after → c ∉ new := by
        intro before old new after place
        have check : ∀ new ∈ marks, ['$', 'E', 'e'].all (· ∉ new) := by decide
        exact of_decide_eq_true (List.all_eq_true.1 (check new place.mark) c letter)
      rw [← List.append_assoc] at eq
      obtain ⟨whole, back', rfl, first, last⟩ := e.split never eq
      exact ⟨whole, c :: back', rfl, (Edit.keep c last).looksBack quiet_marks looks, rfl, first⟩
  obtain ⟨front', rfl, before⟩ := first.suffix (ends clear) rfl
  refine ⟨front', back', List.append_assoc .., looks', head, fun word starts => ?_⟩
  refine before.getLast_clear flow ?_ starts
  obtain ⟨c, piece, rfl⟩ := List.exists_cons_of_ne_nil (l := piece) (by rintro rfl; cases word)
  exact word

/-! ## Pairs of counts -/

/-- All characters of a count are digits, or those of a mark. -/
lemma IsCount.all {count : List Char} {q : Char → Bool} (h : IsCount count)
    (digits : ∀ c, isDecimal c → q c) (marks : ∀ m ∈ parameterMarks, m.all q) : count.all q := by
  rcases h with ⟨-, decimal⟩ | mark
  · exact List.all_eq_true.2 fun c mem => digits c (List.all_eq_true.1 decimal c mem)
  · exact marks count mark

/-- A count ends in a character of words, but not in the letter of a literal with escapes. -/
lemma IsCount.getLast {count : List Char} (h : IsCount count) :
    ∃ c, count.getLast? = some c ∧ isWord c ∧ c ≠ 'E' ∧ c ≠ 'e' := by
  rcases h with ⟨some, digits⟩ | mark
  · have digit := List.all_eq_true.1 digits _ (List.getLast_mem some)
    refine ⟨_, List.getLast?_eq_some_getLast some, isWord_of_isDecimal digit, ?_, ?_⟩
    · intro eq
      rw [eq] at digit
      exact absurd digit (by decide)
    · intro eq
      rw [eq] at digit
      exact absurd digit (by decide)
  · have check : ∀ m ∈ parameterMarks, ['s', 'S', 'ſ'].any fun c =>
        m.getLast? = some c && (isWord c && (c ≠ 'E' && c ≠ 'e')) := by decide
    obtain ⟨c, -, last⟩ := List.any_eq_true.1 (check count mark)
    simp only [Bool.and_eq_true, decide_eq_true_eq] at last
    exact ⟨c, last⟩

/-- No count but the mark of a parameter holds the end of a mark. -/
lemma IsCount.not_mem {count : List Char} (h : IsCount count) (other : count ≠ ['%', 's']) :
    's' ∉ count ∧ '~' ∉ count := by
  rcases h with ⟨-, digits⟩ | mark
  · have digit := List.all_eq_true.1 digits
    exact ⟨fun mem => absurd (digit _ mem) (by decide),
      fun mem => absurd (digit _ mem) (by decide)⟩
  · have check : ∀ m ∈ parameterMarks, m ≠ ['%', 's'] → 's' ∉ m ∧ '~' ∉ m := by decide
    exact check count mark other

namespace LimitPair
variable {skip take old : List Char}

/-- A pair of counts starts with a character of words. -/
lemma head (h : LimitPair skip take old) : old.head?.any isWord := by
  obtain ⟨word, gap, blanks, blanks', reads, -, -, -, -, -, rfl⟩ := h
  obtain ⟨c, word, rfl⟩ := List.exists_cons_of_ne_nil reads.ne_nil
  exact reads.any_head

/-- It ends as its second count does. -/
lemma getLast (h : LimitPair skip take old) : old.getLast? = take.getLast? := by
  obtain ⟨word, gap, blanks, blanks', -, -, -, -, -, count, rfl⟩ := h
  obtain ⟨c, last, -⟩ := count.getLast
  simp [List.getLast?_append, List.getLast?_cons, last]

/-- Without marks, there is neither an s nor a tilde in it. -/
lemma not_mem (h : LimitPair skip take old) (skip_ne : skip ≠ ['%', 's'])
    (take_ne : take ≠ ['%', 's']) : 's' ∉ old ∧ '~' ∉ old := by
  obtain ⟨word, gap, blanks, blanks', reads, isGap, count, blank, blank', count', rfl⟩ := h
  have clear {c : Char} (among : c ∈ ['s', '~']) {cs : List Char} (h : cs.all isBlank) : c ∉ cs := by
    have check : ['s', '~'].all (!isBlank ·) := by decide
    intro mem
    have blank := List.all_eq_true.1 check c among
    rw [List.all_eq_true.1 h c mem] at blank
    cases blank
  obtain ⟨skip_s, skip_tilde⟩ := count.not_mem skip_ne
  obtain ⟨take_s, take_tilde⟩ := count'.not_mem take_ne
  simp only [List.mem_append, List.mem_cons, not_or]
  refine ⟨⟨reads.not_mem (by decide), clear (by decide) isGap.2, skip_s,
    clear (by decide) blank, by decide, clear (by decide) blank', take_s⟩,
    ⟨reads.not_mem (by decide), clear (by decide) isGap.2, skip_tilde,
    clear (by decide) blank, by decide, clear (by decide) blank', take_tilde⟩⟩

end LimitPair

/-- All characters of the two clauses are those of the words and the counts. -/
lemma all_clauses {skip take : List Char} {q : Char → Bool} (hs : IsCount skip) (ht : IsCount take)
    (digits : ∀ c, isDecimal c → q c) (marks : ∀ m ∈ parameterMarks, m.all q)
    (words : ∀ w ∈ ["LIMIT ", " LIMIT ", "OFFSET ", " OFFSET "], w.toList.all q) :
    (clauses skip take).all q := by
  have allSkip := hs.all digits marks
  have allTake := ht.all digits marks
  simp only [List.forall_mem_cons] at words
  rw [clauses]
  split
  · simp only [List.all_append, words, allSkip, allTake, Bool.and_self]
  · simp only [List.all_append, words, allSkip, allTake, Bool.and_self]

/-- No character of the two clauses opens a quotation. -/
lemma isBare_clauses {skip take : List Char} (hs : IsCount skip) (ht : IsCount take) :
    (clauses skip take).all isBare :=
  all_clauses hs ht (fun _ digit => isBare_of_isWord (isWord_of_isDecimal digit)) (by decide) (by decide)

/-- The two clauses start with one of two letters. -/
lemma head_clauses (skip take : List Char) :
    (clauses skip take).head? = some 'O' ∨ (clauses skip take).head? = some 'L' := by
  rw [clauses]
  split
  · exact .inl rfl
  · exact .inr rfl

/-- They end as the count does that is put last. -/
lemma getLast_clauses {skip take : List Char} (hs : IsCount skip) (ht : IsCount take) :
    (clauses skip take).getLast? =
      if skip = ['%', 's'] ∨ take = ['%', 's'] then take.getLast? else skip.getLast? := by
  obtain ⟨c, lastSkip, -⟩ := hs.getLast
  obtain ⟨d, lastTake, -⟩ := ht.getLast
  rw [clauses]
  split
  · rw [List.getLast?_append, lastTake]
    rfl
  · rw [List.getLast?_append, lastSkip]
    rfl

/-! ## The rules, one after the other -/

/-- Putting marks in leaves what is steady steady. -/
lemma Steady.edit (steady : Steady rest cs) (e : Edit Marks rest [] cs ds) : Steady rest ds := by
  rintro front back eq looks unsteady
  cases unsteady with
  | @mark front =>
    rw [List.append_assoc] at eq
    obtain ⟨front', back', eq', looks', -⟩ := e.stretch eq (by decide) looks
    exact steady (front' ++ ['?']) back' (by rw [eq', List.append_assoc]) looks' .mark
  | @regexp front word _ starts reads ends =>
    rw [List.append_assoc] at eq
    obtain ⟨front', back', eq', looks', head, first⟩ := e.stretch eq
      ⟨reads.not_mem (by decide), reads.not_mem (by decide)⟩ looks
    refine steady (front' ++ word) back' (by rw [eq', List.append_assoc]) looks' ?_
    exact .regexp (first reads.any_head starts) reads (by rwa [Clear, head])
  | @pair front skip take old _ starts pair skip_ne take_ne differ =>
    rw [List.append_assoc] at eq
    obtain ⟨front', back', eq', looks', -, first⟩ := e.stretch eq (pair.not_mem skip_ne take_ne) looks
    refine steady (front' ++ old) back' (by rw [eq', List.append_assoc]) looks' ?_
    exact .pair (first pair.head starts) pair skip_ne take_ne differ

/-- No word goes on at two texts together where none goes on at either. -/
lemma clear_append {after rest : List Char} (h : Clear after) (h' : Clear rest) :
    Clear (after ++ rest) := by
  cases after with
  | nil => exact h'
  | cons c after => exact h

/-- What is read as a word does not start with a line break. -/
lemma Reads.head_ne_newline {word : String} {cs : List Char} (h : Reads word cs) (more : List Char) :
    (cs ++ more).head? ≠ some '\n' := by
  obtain ⟨c, cs, rfl⟩ := List.exists_cons_of_ne_nil h.ne_nil
  rintro ⟨⟩
  have word : isWord '\n' = true := h.any_head
  exact absurd word (by decide)

/-- A word that is read does not end in the letter of a literal with escapes, if it does not. -/
lemma Reads.getLast {word : String} {cs : List Char} (h : Reads word cs)
    (other : word.toList.getLast?.map foldChar ≠ some (foldChar 'e')) :
    ∃ c, cs.getLast? = some c ∧ c ≠ 'E' ∧ c ≠ 'e' := by
  have last := List.getLast?_eq_some_getLast h.ne_nil
  have folds := h.foldChar_getLast
  rw [last] at folds
  refine ⟨_, last, ?_, ?_⟩
  · intro eq
    rw [eq] at folds
    exact other (folds.symm.trans (by decide))
  · intro eq
    rw [eq] at folds
    exact other folds.symm

section Steps
variable (steady : Steady rest cs)

/-- To mark the parameters of steady code is to put marks in place. -/
lemma Steady.edit_placeholder (steady : Steady rest cs) :
    Edit Marks rest [] cs (replaceText ['?'] ['%', 's'] cs) := by
  refine (edit_replaceText '?' ['%', 's'] [] cs).imp ?_
  rintro front old new after eq ⟨rfl, rfl⟩
  refine .of_getLast (c := '?') rfl (by decide) (by decide) (by decide) ?_ (fun _ => by decide)
  intro looks
  exact steady (front ++ ['?']) after (by rw [eq, List.append_assoc]) looks .mark

/-- So is the replacement of negated matches. -/
lemma Steady.edit_notRegexp (steady : Steady rest cs) (clear : Clear rest) :
    Edit Marks rest [] cs (substitute findNotRegexp none cs) := by
  refine (edit_substitute finds_findNotRegexp [] cs).imp ?_
  rintro front old new after eq ⟨no, gap, word, -, readsNo, isGap, reads, ends, rfl, rfl⟩
  rw [List.append_nil] at ends
  obtain ⟨c, last, other⟩ := reads.getLast (by decide)
  refine .of_getLast (c := c) (by simp [List.getLast?_append, last]) other (readsNo.head_ne_newline _)
    (by decide) ?_ fun word => ?_
  · intro looks
    have starts : (front ++ no ++ gap).getLast?.any isWord = false := by
      have last := isGap.clear.2
      obtain ⟨init, b, rfl⟩ := (List.eq_nil_or_concat gap).resolve_left isGap.1
      simpa using last
    exact steady (front ++ no ++ gap ++ word) after (by simp [eq]) looks (.regexp starts reads ends)
  · rw [clear_append ends clear] at word
    cases word

/-- So is the replacement of matches. -/
lemma Steady.edit_regexp (steady : Steady rest cs) (clear : Clear rest) :
    Edit Marks rest [] cs (substitute (findWord "REGEXP" "~") none cs) := by
  refine (edit_substitute (finds_findWord (by decide) (by decide)) [] cs).imp ?_
  rintro front old new after eq ⟨starts, reads, ends, rfl⟩
  rw [List.append_nil] at ends
  obtain ⟨c, last, other⟩ := reads.getLast (by decide)
  have line : old.head? ≠ some '\n' := by
    have first := reads.head_ne_newline []
    rwa [List.append_nil] at first
  refine .of_getLast last other line (by decide) ?_ fun word => ?_
  · intro looks
    have starts : front.getLast?.any isWord = false := by
      rwa [Clear, List.append_nil, List.head?_reverse] at starts
    exact steady (front ++ old) after (by rw [eq, List.append_assoc]) looks (.regexp starts reads ends)
  · rw [clear_append ends clear] at word
    cases word

/-- Steady code in which pairs of counts were replaced can stand where it stood. -/
lemma Steady.stands_pages (steady : Steady rest cs) (some : cs ≠ []) :
    Stands rest cs (substitute findLimitPair none cs) := by
  refine (edit_substitute finds_findLimitPair [] cs).stands_of some ?_ ?_
  · rintro front old new after eq ⟨skip, take, starts, pair, rfl⟩
    obtain ⟨word, gap, blanks, blanks', reads, -, countSkip, -, -, countTake, rfl⟩ := id pair
    obtain ⟨c, lastSkip, -, otherSkip⟩ := countSkip.getLast
    obtain ⟨d, lastTake, -, otherTake⟩ := countTake.getLast
    have last := getLast_clauses countSkip countTake
    have start := head_clauses skip take
    refine ⟨?_, isPlain_of_isBare (isBare_clauses countSkip countTake), ?_, reads.head_ne_newline _, ?_, ?_⟩
    · rintro nil
      rw [nil] at start
      rcases start with h | h <;> cases h
    · rcases start with h | h <;> simp [h]
    · intro looks
      rw [pair.getLast, last]
      split
      · rfl
      · next none =>
        rw [not_or] at none
        by_cases same : skip.getLast?.any isNameChar = take.getLast?.any isNameChar
        · exact same.symm
        · have starts : front.getLast?.any isWord = false := by
            rwa [Clear, List.head?_reverse] at starts
          exact absurd (.pair starts pair none.1 none.2 same)
            (steady _ after (eq.trans (List.append_assoc ..).symm) looks)
    · intro _ b b'
      rw [isEscapeLiteral_of_getLast (pair.getLast.trans lastTake) otherTake]
      split at last
      · rw [isEscapeLiteral_of_getLast (last.trans lastTake) otherTake]
      · rw [isEscapeLiteral_of_getLast (last.trans lastSkip) otherSkip]
  · rintro - before old new after ⟨skip, take, -, ⟨_, _, _, _, -, -, countSkip, -, -, countTake, -⟩, rfl⟩
    have bare := List.all_eq_true.1 (isBare_clauses countSkip countTake)
    refine .of_not_name (fun mem => absurd (bare _ mem) (by decide)) ?_
    have blank : ' ' ∈ clauses skip take := by
      rw [clauses]
      split <;> simp
    rw [Bool.eq_false_iff]
    intro name
    exact absurd (List.all_eq_true.1 name _ blank) (by decide)

end Steps

/-- So can code in which bounds that are none were replaced. -/
lemma stands_noLimit (rest : List Char) (some : cs ≠ []) :
    Stands rest cs (substitute findNoLimit none cs) := by
  refine (edit_substitute finds_findNoLimit [] cs).stands_of some ?_ ?_
  · rintro front old new after - ⟨word, gap, -, reads, -, -, rfl, rfl⟩
    have last : (word ++ (gap ++ ['-', '1'])).getLast? = Option.some '1' := by
      simp [List.getLast?_append]
    have last' : "LIMIT ALL".toList.getLast? = Option.some 'L' := by decide
    refine ⟨by decide, by decide, by decide, reads.head_ne_newline _, fun _ => ?_, fun _ b b' => ?_⟩
    · rw [last, last']
      rfl
    · rw [isEscapeLiteral_of_getLast last (by decide), isEscapeLiteral_of_getLast last' (by decide)]
  · rintro - before old new after ⟨_, _, -, -, -, -, -, rfl⟩
    exact .of_not_name (by decide) (by decide)

/-- So can code in which a type was replaced. -/
lemma stands_bytes (some : cs ≠ []) : Stands rest cs (substitute (findWord "BLOB" "BYTEA") none cs) := by
  have name {old : List Char} (reads : Reads "BLOB" old) : old.all isNameChar :=
    reads.all_isNameChar (by decide) (by decide) (by decide)
  refine (edit_substitute (finds_findWord (by decide) (by decide)) [] cs).stands_of some ?_ ?_
  · rintro front old new after - ⟨-, reads, -, rfl⟩
    obtain ⟨c, last, other⟩ := reads.getLast (by decide)
    have last' : "BYTEA".toList.getLast? = Option.some 'A' := by decide
    have line : old.head? ≠ Option.some '\n' := by
      have first := reads.head_ne_newline []
      rwa [List.append_nil] at first
    refine ⟨by decide, by decide, by decide, line, fun _ => ?_, fun _ b b' => ?_⟩
    · rw [last, last']
      exact List.all_eq_true.1 (name reads) c (List.mem_of_getLast? last)
    · rw [isEscapeLiteral_of_getLast last other, isEscapeLiteral_of_getLast last' (by decide)]
  · rintro - before old new after ⟨-, reads, -, rfl⟩
    refine ⟨by decide, fun _ => name reads, fun _ start => ?_⟩
    obtain ⟨c, old, rfl⟩ := List.exists_cons_of_ne_nil reads.ne_nil
    have letter : foldChar c = foldChar 'B' := (List.cons.inj reads.folds).1
    have named := (Bool.and_eq_true_iff.1 (name reads)).1
    have check : ∀ n < 128, (Char.ofNat n).isDigit → foldChar (Char.ofNat n) ≠ foldChar 'B' := by
      decide
    exact absurd letter (isAscii_induction (fun c => c.isDigit → foldChar c ≠ foldChar 'B') check
      (isAscii_of_isNameChar named) start)

/-- What the rules for legacy statements make of steady code can stand in its place. -/
theorem Steady.stands (steady : Steady rest cs) (some : cs ≠ []) (clear : Clear rest)
    (definition : Bool) :
    Stands rest cs (legacyRules.foldl (fun code r => r.apply definition code) cs) := by
  have first := steady.edit_placeholder
  have second := (steady.edit first).edit_notRegexp clear
  have third := ((steady.edit first).edit second).edit_regexp clear
  have stands₁ := first.stands some quiet_marks
  have stands₂ := second.stands stands₁.some quiet_marks
  have stands₃ := third.stands stands₂.some quiet_marks
  have stands₄ := (((steady.edit first).edit second).edit third).stands_pages stands₃.some
  have stands₅ := stands_noLimit rest stands₄.some
  have before := (((stands₁.trans stands₂).trans stands₃).trans stands₄).trans stands₅
  cases definition with
  | false => exact before
  | true => exact before.trans (stands_bytes stands₅.some)

/-! ## Whole statements -/

/-- Whether all code of a statement is steady. -/
def IsSteady (sql : List Char) : Prop :=
  ∀ front t rest, lexemes sql = front ++ ⟨.code, t⟩ :: rest → Steady (text rest) t

/-- The lexemes of a statement with its parameters numbered after the first `n`. -/
def numbered (n : Nat) : List Lexeme → List Lexeme
  | [] => []
  | l :: ls =>
    if l.kind = .code then ⟨.code, (numberCode n l.text).1⟩ :: numbered (numberCode n l.text).2 ls
    else l :: numbered n ls

/-- The numbered lexemes spell the numbered statement. -/
lemma text_numbered (n : Nat) (ls : List Lexeme) : text (numbered n ls) = numberLexemes n ls := by
  induction ls generalizing n with
  | nil => rfl
  | cons l ls ih =>
    rw [numbered, numberLexemes]
    split
    · exact congrArg ((numberCode n l.text).1 ++ ·) (ih _)
    · exact congrArg (l.text ++ ·) (ih n)

/-- When a statement is numbered, only its code changes. -/
lemma inCode_numbered (n : Nat) (ls : List Lexeme) :
    InCode (fun cs ds => ∃ k, ds = (numberCode k cs).1) ls (numbered n ls) := by
  induction ls generalizing n with
  | nil => exact .nil
  | cons l ls ih =>
    obtain ⟨kind, t⟩ := l
    rw [numbered]
    split
    · next code =>
      obtain rfl : kind = .code := code
      exact .code ⟨n, rfl⟩ (ih _)
    · next other => exact .quoted other (ih n)

/-- The rules change each stretch of code of a steady statement by itself, and cut it nowhere. -/
lemma IsSteady.lexemes_adapt {sql : List Char} (h : IsSteady sql) :
    lexemes (adapt legacyRules sql) = (lexemes sql).map
      (recode fun code => legacyRules.foldl (fun code r => r.apply (isDefinition sql) code) code) := by
  have recoded : Recoded (lexemes sql) ((lexemes sql).map
      (recode fun code => legacyRules.foldl (fun code r => r.apply (isDefinition sql) code) code)) := by
    refine recoded_map fun front t rest eq => ?_
    obtain ⟨some, clear⟩ := code_of_lexemes eq
    exact (h front t rest eq).stands some clear (isDefinition sql)
  have again := recoded.lexemes_eq
  rwa [text_recode] at again

/-- Code is steady if gaps other than parameter marks stand in front of what looks back. -/
lemma Steady.of_gap (h : ∀ k < cs.length + 1, looksBack (cs.drop k ++ rest) →
      (cs.take k).getLast? ≠ some '?' ∧ (cs.take k).getLast?.any isWord = false) :
    Steady rest cs := by
  rintro front back rfl looks unsteady
  have here := h front.length (by rw [List.length_append]; omega)
  rw [List.drop_left, List.take_left] at here
  obtain ⟨other, gap⟩ := here looks
  cases unsteady with
  | mark => simp at other
  | @regexp front word _ _ reads _ =>
    obtain ⟨c, last⟩ := Option.isSome_iff_exists.1 (List.getLast?_isSome.2 reads.ne_nil)
    have word := reads.any_getLast
    rw [last] at word
    rw [List.getLast?_append, last] at gap
    exact absurd word (by simpa using gap)
  | @pair front skip take old _ _ pair _ _ _ =>
    obtain ⟨_, _, _, _, -, -, -, -, -, count, -⟩ := id pair
    obtain ⟨c, last, word, -⟩ := count.getLast
    rw [List.getLast?_append, pair.getLast, last] at gap
    exact absurd word (by simpa using gap)

/-- That a statement is steady can be looked up. -/
lemma IsSteady.of_gaps {sql : List Char} (h : ∀ i < (lexemes sql).length, ∀ l ∈ (lexemes sql)[i]?,
      l.kind = .code → ∀ k < l.text.length + 1,
        looksBack (l.text.drop k ++ text ((lexemes sql).drop (i + 1))) →
          (l.text.take k).getLast? ≠ some '?' ∧ (l.text.take k).getLast?.any isWord = false) :
    IsSteady sql := by
  intro front t rest eq
  refine .of_gap fun k small looks => ?_
  have here := h front.length (by simp [eq]) ⟨.code, t⟩ (by simp [eq]) rfl k small
  have drop : (lexemes sql).drop (front.length + 1) = rest := by
    rw [eq, ← List.drop_drop, List.drop_left]
    rfl
  rw [drop] at here
  exact here looks

/-- What is quoted in a steady statement is quoted after the rules have acted, and goes to the server as
it is: only the code around it is changed. -/
theorem inCode_forServer {sql : List Char} (h : IsSteady sql) :
    InCode (fun _ _ => True) (lexemes sql) (lexemes (adapt legacyRules sql)) ∧
      ∃ out, InCode (fun _ _ => True) (lexemes sql) out ∧ text out = forServer legacyRules sql := by
  have adapted : InCode (fun _ _ => True) (lexemes sql) (lexemes (adapt legacyRules sql)) := by
    rw [h.lexemes_adapt]
    exact inCode_map fun _ _ => trivial
  refine ⟨adapted, numbered 0 (lexemes (adapt legacyRules sql)), ?_, text_numbered 0 _⟩
  exact adapted.trans (fun _ _ _ _ _ => trivial) (inCode_numbered 0 _)

/-- A literal, a quoted name and a comment keep their question marks while the code around them is
replaced. -/
theorem inCode_forServer_select :
    IsSteady "SELECT \"a?\" FROM t WHERE b = E'\\'?' AND c REGEXP ? /* ? */ LIMIT 5, ?".toList ∧
      ∃ out, InCode (fun _ _ => True)
          (lexemes "SELECT \"a?\" FROM t WHERE b = E'\\'?' AND c REGEXP ? /* ? */ LIMIT 5, ?".toList) out ∧
        text out =
          "SELECT \"a?\" FROM t WHERE b = E'\\'?' AND c ~ $1 /* ? */ OFFSET 5 LIMIT $2".toList := by
  have steady : IsSteady
      "SELECT \"a?\" FROM t WHERE b = E'\\'?' AND c REGEXP ? /* ? */ LIMIT 5, ?".toList :=
    .of_gaps (by decide +kernel)
  obtain ⟨-, out, same, eq⟩ := inCode_forServer steady
  exact ⟨steady, out, same, eq.trans (by decide +kernel)⟩

/-- A mark that is put in front of a literal with escapes makes it one without: the second of two
apostrophes then ends it, and what follows is taken for code. -/
theorem not_inCode_forServer :
    ¬ InCode (fun _ _ => True) (lexemes "SELECT ?E'\\'%s'".toList)
        (lexemes (adapt legacyRules "SELECT ?E'\\'%s'".toList)) ∧
      ¬ ∃ out, InCode (fun _ _ => True) (lexemes "SELECT ?E'\\'%s'".toList) out ∧
        text out = forServer legacyRules "SELECT ?E'\\'%s'".toList := by
  have before : lexemes "SELECT ?E'\\'%s'".toList =
      [⟨.code, "SELECT ?E".toList⟩, ⟨.literal, "'\\'%s'".toList⟩] := by decide +kernel
  have after : lexemes (adapt legacyRules "SELECT ?E'\\'%s'".toList) =
      [⟨.code, "SELECT %sE".toList⟩, ⟨.literal, "'\\'".toList⟩, ⟨.code, "%s".toList⟩,
        ⟨.literal, "'".toList⟩] := by decide +kernel
  have sent : forServer legacyRules "SELECT ?E'\\'%s'".toList = "SELECT $1E'\\'$2'".toList := by
    decide +kernel
  rw [before, after, sent]
  constructor
  · intro h
    cases h with
    | code _ h => cases h
  · rintro ⟨out, h, eq⟩
    cases h with
    | quoted other => exact absurd rfl other
    | @code _ t _ _ _ h =>
      cases h with
      | quoted _ h =>
        cases h
        have ends := congrArg (fun cs => cs.reverse.take 2) eq
        simp [text] at ends

end Tenancy.Sql
