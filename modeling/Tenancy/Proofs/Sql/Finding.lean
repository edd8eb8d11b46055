import Tenancy.Proofs.Sql.Quotation
import Tenancy.Proofs.Sql.Splitting

/-!
# Rules find all that they look for

The patterns of the rules for legacy statements match wherever what they look for stands
(`findsAll_findWord`, `findsAll_findNotRegexp`, `findsAll_findLimitPair`, `findsAll_findNoLimit`).
-/

namespace Tenancy.Sql
open Text

/-! ## The parts of a pattern -/

variable {before cs rest : List Char}

/-- A word starts with a character of words, whatever follows it. -/
lemma Reads.head_append {word : String} (reads : Reads word cs) (more : List Char) :
    (cs ++ more).head?.any isWord := by
  have head := reads.any_head
  obtain ⟨c, cs, rfl⟩ := List.exists_cons_of_ne_nil reads.ne_nil
  exact head

/-- A word by itself is found. -/
lemma Reads.afterWord {word : String} (reads : Reads word cs) (clear : Clear before) (rest : List Char) :
    afterWord? word before.head? (cs ++ rest) = some rest := by
  rw [afterWord?, boundary, reads.head_append rest, show before.head?.any isWord = false from clear]
  exact afterFolded_append reads.folds rest

/-- A word ends where none goes on. -/
lemma Reads.endsWord {word : String} (reads : Reads word cs) (front : List Char) (clear : Clear rest) :
    Sql.endsWord (front ++ (cs ++ rest)) rest := by
  have filled : front ++ cs ≠ [] := fun nil => reads.ne_nil (List.append_eq_nil_iff.1 nil).2
  have last : (front ++ cs).getLast?.any isWord := by
    rw [List.getLast?_append_of_ne_nil _ reads.ne_nil]
    exact reads.any_getLast
  rw [← List.append_assoc, endsWord_append filled, boundary, last, show rest.head?.any isWord = false from clear]
  rfl

/-- Blanks at the start are left out, up to the first other character. -/
lemma trimStart_append {blanks : List Char} (blank : blanks.all isBlank)
    (stop : rest.head?.any isBlank = false) : trimStart (blanks ++ rest) = rest := by
  rw [trimStart, List.dropWhile_append_of_pos (List.all_eq_true.1 blank)]
  cases rest with
  | nil => rfl
  | cons c rest => exact List.dropWhile_cons_of_neg (by simpa using stop)

/-- What is behind blanks is found. -/
lemma IsGap.afterBlanks {gap : List Char} (isGap : IsGap gap) (stop : rest.head?.any isBlank = false) :
    afterBlanks? (gap ++ rest) = some rest := by
  have starts : (gap ++ rest).head?.any isBlank := by
    obtain ⟨filled, blank⟩ := isGap
    obtain ⟨c, gap, rfl⟩ := List.exists_cons_of_ne_nil filled
    exact (Bool.and_eq_true_iff.1 blank).1
  rw [afterBlanks?, if_pos starts, trimStart_append isGap.2 stop]

/-- A count is read, if no more digits follow it. -/
lemma IsCount.operand (count : IsCount cs) (ends : cs.all isDecimal → rest.head?.any isDecimal = false) :
    operand? (cs ++ rest) = some (cs, rest) := by
  obtain ⟨filled, digits⟩ | mark := count
  · have stop := ends digits
    have taken : (cs ++ rest).takeWhile isDecimal = cs := by
      rw [List.takeWhile_append_of_pos (List.all_eq_true.1 digits)]
      cases rest with
      | nil => simp
      | cons c rest => rw [List.takeWhile_cons_of_neg (by simpa using stop), List.append_nil]
    have left : (cs ++ rest).dropWhile isDecimal = rest := by
      rw [List.dropWhile_append_of_pos (List.all_eq_true.1 digits)]
      cases rest with
      | nil => rfl
      | cons c rest => exact List.dropWhile_cons_of_neg (by simpa using stop)
    rw [operand?, taken, left]
    obtain ⟨c, cs, rfl⟩ := List.exists_cons_of_ne_nil filled
    rfl
  · simp only [parameterMarks, List.mem_cons, List.not_mem_nil, or_false] at mark
    have percent : isDecimal '%' = false := by decide
    have read {c : Char} (folds : foldChar c = foldChar 's') :
        operand? ('%' :: c :: rest) = some (['%', c], rest) := by
      rw [operand?, List.takeWhile_cons_of_neg (by simp [percent])]
      dsimp only
      rw [afterFolded?, if_pos rfl, afterFolded?, if_pos folds]
      rfl
    obtain rfl | rfl | rfl := mark
    · exact read rfl
    · exact read (by decide)
    · exact read (by decide)

/-! ## The patterns -/

/-- A match that goes up to a place has the length of what is in front of it. -/
lemma upTo_append (front back new : List Char) :
    Match.upTo (front ++ back) back new = ⟨front.length, new⟩ := by
  rw [Match.upTo, List.length_append, Nat.add_sub_cancel_right]

/-- A word ends where it did if what follows it starts with the same or with none of a word. -/
lemma clear_of_head {after after' : List Char} (clear : Clear after)
    (same : after'.head? = after.head? ∨ Clear after') : Clear after' := by
  obtain eq | clear' := same
  · rwa [Clear, eq]
  · exact clear'

/-- Every place of a word by itself is found. -/
lemma findsAll_findWord {word new : String} (some : word.toList ≠ []) (chars : word.toList.all isWord) :
    FindsAll (findWord word new) (OneWord word new) where
  finds := finds_findWord some chars
  found := by
    rintro before old _ after ⟨clear, reads, ends, rfl⟩
    have whole : Sql.endsWord (old ++ after) after := reads.endsWord [] ends
    rw [findWord, reads.afterWord clear]
    change (if Sql.endsWord (old ++ after) after then _ else _) = _
    rw [if_pos whole, upTo_append]
  starts := fun ⟨clear, reads, _⟩ => ⟨clear, reads.any_head⟩
  ends := fun ⟨_, reads, _⟩ => reads.any_getLast
  moves := fun ⟨_, reads, ends, new⟩ clear same => ⟨clear, reads, clear_of_head ends same, new⟩

/-- No word starts with a blank. -/
lemma Reads.head_not_isBlank {word : String} (reads : Reads word cs) (rest : List Char) :
    (cs ++ rest).head?.any isBlank = false := by
  have head := reads.any_head
  obtain ⟨c, cs, rfl⟩ := List.exists_cons_of_ne_nil reads.ne_nil
  rw [List.cons_append, List.head?_cons, Option.any_some, Bool.eq_false_iff]
  intro blank
  rw [List.head?_cons, Option.any_some, not_isWord_of_isBlank blank] at head
  cases head

/-- Every place of a negated match is found. -/
lemma findsAll_findNotRegexp : FindsAll findNotRegexp NotRegexp where
  finds := finds_findNotRegexp
  found := by
    rintro before _ _ after ⟨no, gap, word, clear, readsNo, isGap, reads, ends, rfl, rfl⟩
    have length : Match.upTo (no ++ (gap ++ (word ++ after))) after "!~".toList =
        ⟨(no ++ (gap ++ word)).length, "!~".toList⟩ := by
      rw [← upTo_append _ after, List.append_assoc, List.append_assoc]
    have whole := reads.endsWord (no ++ gap) ends
    rw [List.append_assoc] at whole
    rw [List.append_assoc, List.append_assoc, findNotRegexp, readsNo.afterWord clear]
    change (afterBlanks? (gap ++ (word ++ after)) >>= _) = _
    rw [isGap.afterBlanks (reads.head_not_isBlank after)]
    change (afterFolded? "REGEXP".toList (word ++ after) >>= _) = _
    rw [afterFolded_append reads.folds]
    change (if Sql.endsWord (no ++ (gap ++ (word ++ after))) after then _ else _) = _
    rw [if_pos whole, length]
  starts := by
    rintro before _ _ after ⟨no, gap, word, clear, readsNo, isGap, reads, ends, rfl, rfl⟩
    refine ⟨clear, ?_⟩
    exact readsNo.head_append _
  ends := by
    rintro before _ _ after ⟨no, gap, word, clear, readsNo, isGap, reads, ends, rfl, rfl⟩
    rw [← List.append_assoc, List.getLast?_append_of_ne_nil _ reads.ne_nil]
    exact reads.any_getLast
  moves := by
    rintro before before' _ _ after after' ⟨no, gap, word, _, readsNo, isGap, reads, ends, rfl, rfl⟩ clear same
    exact ⟨no, gap, word, clear, readsNo, isGap, reads, clear_of_head ends same, rfl, rfl⟩

/-- No count starts with a blank. -/
lemma IsCount.head_not_isBlank {count : List Char} (h : IsCount count) (rest : List Char) :
    (count ++ rest).head?.any isBlank = false := by
  obtain ⟨filled, digits⟩ | mark := h
  · obtain ⟨c, count, rfl⟩ := List.exists_cons_of_ne_nil filled
    have digit : isDecimal c := (Bool.and_eq_true_iff.1 digits).1
    rw [List.cons_append, List.head?_cons, Option.any_some, Bool.eq_false_iff]
    intro blank
    have word := isWord_of_isDecimal digit
    rw [not_isWord_of_isBlank blank] at word
    cases word
  · simp only [parameterMarks, List.mem_cons, List.not_mem_nil, or_false] at mark
    obtain rfl | rfl | rfl := mark
    · exact (by decide : isBlank '%' = false)
    · exact (by decide : isBlank '%' = false)
    · exact (by decide : isBlank '%' = false)

/-- No digit follows a count in front of a comma. -/
lemma not_isDecimal_of_blanks {blanks : List Char} (blank : blanks.all isBlank) (rest : List Char) :
    (blanks ++ ',' :: rest).head?.any isDecimal = false := by
  cases blanks with
  | nil => exact (by decide : isDecimal ',' = false)
  | cons c blanks =>
    have first : isBlank c := (Bool.and_eq_true_iff.1 blank).1
    rw [List.cons_append, List.head?_cons, Option.any_some, Bool.eq_false_iff]
    intro digit
    have word := isWord_of_isDecimal digit
    rw [not_isWord_of_isBlank first] at word
    cases word

/-- What holds of the characters of words and of blanks, of commas and of parameters holds of all in a pair. -/
lemma LimitPair.all {skip take old : List Char} {q : Char → Bool} (h : LimitPair skip take old)
    (words : ∀ c, isWord c → q c) (blanks : ∀ c, isBlank c → q c) (marks : q '%' ∧ q ',') : old.all q := by
  obtain ⟨word, gap, blank, blank', reads, isGap, count, allBlank, allBlank', count', rfl⟩ := h
  have counts {count : List Char} (h : IsCount count) : count.all q := by
    refine h.all (fun c digit => words c (isWord_of_isDecimal digit)) fun m mem => ?_
    have check : ∀ m ∈ parameterMarks, m.all fun c => isWord c || c = '%' := by decide
    refine all_of_imp (fun c char => ?_) (check m mem)
    obtain word | percent := Bool.or_eq_true_iff.1 char
    · exact words c word
    · exact of_decide_eq_true percent ▸ marks.1
  simp only [List.all_append, List.all_cons, Bool.and_eq_true]
  exact ⟨all_of_imp words reads.chars, all_of_imp blanks isGap.2, counts count, all_of_imp blanks allBlank,
    marks.2, all_of_imp blanks allBlank', counts count'⟩

/-- Every place of a pair of counts is found. -/
lemma findsAll_findLimitPair : FindsAll findLimitPair FullPages where
  finds := finds_findLimitPair_full
  found := by
    rintro before old _ after ⟨skip, take, clear, pair, rfl, ends⟩
    obtain ⟨word, gap, blanks, blanks', reads, isGap, countSkip, blank, blank', countTake, rfl⟩ := pair
    have length : Match.upTo (word ++ (gap ++ (skip ++ (blanks ++ ',' :: (blanks' ++ (take ++ after)))))) after
        (clauses skip take) =
        ⟨(word ++ (gap ++ (skip ++ (blanks ++ ',' :: (blanks' ++ take))))).length, clauses skip take⟩ := by
      rw [← upTo_append _ after]
      simp only [List.append_assoc, List.cons_append]
    have readWord := reads.afterWord clear (gap ++ (skip ++ (blanks ++ ',' :: (blanks' ++ (take ++ after)))))
    have readGap := isGap.afterBlanks (countSkip.head_not_isBlank (blanks ++ ',' :: (blanks' ++ (take ++ after))))
    have readSkip := countSkip.operand fun _ => not_isDecimal_of_blanks blank (blanks' ++ (take ++ after))
    have comma : trimStart (blanks ++ ',' :: (blanks' ++ (take ++ after))) = ',' :: (blanks' ++ (take ++ after)) :=
      trimStart_append blank (by decide : isBlank ',' = false)
    have readTake := countTake.operand ends
    have trimmed := trimStart_append blank' (countTake.head_not_isBlank after)
    simp only [List.append_assoc, List.cons_append]
    simp only [findLimitPair, Option.bind_eq_bind, readWord, Option.bind_some, readGap, readSkip, comma,
      trimmed, readTake]
    exact congrArg some length
  starts := fun ⟨_, _, clear, pair, _, _⟩ => ⟨clear, pair.head⟩
  ends := by
    rintro before old _ after ⟨skip, take, clear, pair, rfl, ends⟩
    obtain ⟨_, _, _, _, -, -, -, -, -, count, -⟩ := id pair
    obtain ⟨c, last, word, -⟩ := count.getLast
    rw [pair.getLast, last]
    exact word
  moves := by
    rintro before before' old _ after after' ⟨skip, take, _, pair, rfl, ends⟩ clear same
    refine ⟨skip, take, clear, pair, rfl, fun digits => ?_⟩
    obtain eq | clear' := same
    · rw [eq]
      exact ends digits
    · cases after' with
      | nil => rfl
      | cons c after' =>
        rw [List.head?_cons, Option.any_some, Bool.eq_false_iff]
        intro digit
        have word := isWord_of_isDecimal digit
        rw [show isWord c = false from clear'] at word
        cases word

/-- Every place of a bound that is none is found. -/
lemma findsAll_findNoLimit : FindsAll findNoLimit NoLimit where
  finds := finds_findNoLimit
  found := by
    rintro before _ _ after ⟨word, gap, clear, reads, isGap, ends, rfl, rfl⟩
    have length : Match.upTo (word ++ (gap ++ '-' :: '1' :: after)) after "LIMIT ALL".toList =
        ⟨(word ++ (gap ++ ['-', '1'])).length, "LIMIT ALL".toList⟩ := by
      rw [← upTo_append _ after]
      simp only [List.append_assoc, List.cons_append, List.nil_append]
    have readWord := reads.afterWord clear (gap ++ '-' :: '1' :: after)
    have readGap := isGap.afterBlanks (show ('-' :: '1' :: after).head?.any isBlank = false from
      (by decide : isBlank '-' = false))
    have border : boundary (some '1') after.head? := by
      rw [boundary, show after.head?.any isWord = false from ends]
      decide
    simp only [List.append_assoc, List.cons_append, List.nil_append]
    simp only [findNoLimit, Option.bind_eq_bind, readWord, Option.bind_some, readGap]
    rw [if_pos border, length]
  starts := by
    rintro before _ _ after ⟨word, gap, clear, reads, isGap, ends, rfl, rfl⟩
    exact ⟨clear, reads.head_append _⟩
  ends := by
    rintro before _ _ after ⟨word, gap, clear, reads, isGap, ends, rfl, rfl⟩
    rw [← List.append_assoc, List.getLast?_append_of_ne_nil _ (by simp)]
    decide
  moves := by
    rintro before before' _ _ after after' ⟨word, gap, _, reads, isGap, ends, rfl, rfl⟩ clear same
    exact ⟨word, gap, clear, reads, isGap, clear_of_head ends same, rfl, rfl⟩

end Tenancy.Sql
