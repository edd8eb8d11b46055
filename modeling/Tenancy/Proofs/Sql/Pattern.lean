import Tenancy.Proofs.Sql.Edit
import Tenancy.Proofs.Sql.Gap
import Tenancy.Proofs.Text.Folding

/-!
# What the rules find

The patterns of the rules for legacy statements are words with blanks and counts between them. For each
one there is a `Change` that says what it finds, between what, and what it puts there; that it finds
nothing else is `finds_findWord`, `finds_findNotRegexp`, `finds_findLimitPair` and `finds_findNoLimit`.
-/

namespace Tenancy.Sql
open Text

/-- Whether a text is a word in some case. -/
structure Reads (word : String) (cs : List Char) : Prop where
  ne_nil : cs ≠ []
  chars : cs.all isWord
  folds : cs.map foldChar = word.toList.map foldChar

/-- Whether a text is blanks, at least one. -/
def IsGap (cs : List Char) : Prop := cs ≠ [] ∧ cs.all isBlank

/-- Whether no word goes on at a place. -/
abbrev Clear (cs : List Char) : Prop := cs.head?.any isWord = false

namespace Reads
variable {word : String} {cs : List Char}

/-- A text that is a word but for the case of its letters is read as that word. -/
lemma of_folds (some : word.toList ≠ []) (chars : word.toList.all isWord)
    (h : cs.map foldChar = word.toList.map foldChar) : Reads word cs where
  ne_nil := by
    rintro rfl
    exact some (List.map_eq_nil_iff.1 h.symm)
  chars := by
    refine List.all_eq_true.2 fun c mem => ?_
    have folded : foldChar c ∈ word.toList.map foldChar := h ▸ List.mem_map_of_mem mem
    obtain ⟨d, memd, eq⟩ := List.mem_map.1 folded
    rw [isWord_of_fold eq.symm, List.all_eq_true.1 chars d memd]
  folds := h

/-- A character that is not in the word in any case is not in the text. -/
lemma not_mem (h : Reads word cs) {c : Char} (other : foldChar c ∉ word.toList.map foldChar) :
    c ∉ cs := fun mem => other (h.folds ▸ List.mem_map_of_mem mem)

/-- A word of characters of names is read as one, unless it has a letter that another script shares. -/
lemma all_isNameChar (h : Reads word cs) (name : word.toList.all isNameChar)
    (long : foldChar 'ſ' ∉ word.toList.map foldChar)
    (kelvin : foldChar '\u212A' ∉ word.toList.map foldChar) : cs.all isNameChar := by
  refine List.all_eq_true.2 fun c mem => ?_
  have folded : foldChar c ∈ word.toList.map foldChar := h.folds ▸ List.mem_map_of_mem mem
  obtain ⟨d, memd, eq⟩ := List.mem_map.1 folded
  rcases isNameChar_or_of_fold (List.all_eq_true.1 name d memd) eq.symm with same | rfl | rfl
  · exact same
  · exact absurd folded long
  · exact absurd folded kelvin

/-- The text ends as the word does, but for the case. -/
lemma foldChar_getLast (h : Reads word cs) :
    cs.getLast?.map foldChar = word.toList.getLast?.map foldChar := by
  rw [← List.getLast?_map, h.folds, List.getLast?_map]

/-- A text of word characters starts and ends with one. -/
lemma any_head (h : Reads word cs) : cs.head?.any isWord := by
  obtain ⟨c, more, rfl⟩ := List.exists_cons_of_ne_nil h.ne_nil
  exact (Bool.and_eq_true_iff.1 h.chars).1

/-- It ends in a character of words. -/
lemma any_getLast (h : Reads word cs) : cs.getLast?.any isWord := by
  rw [List.getLast?_eq_some_getLast h.ne_nil]
  exact List.all_eq_true.1 h.chars _ (List.getLast_mem h.ne_nil)

end Reads

/-! ## The parts of a pattern -/

variable {before : Option Char} {cs rest : List Char}

/-- What a word is found in front of starts with it, as a word by itself. -/
lemma reads_of_afterWord {word : String} (some : word.toList ≠ []) (chars : word.toList.all isWord)
    (h : afterWord? word before cs = Option.some rest) :
    ∃ old, cs = old ++ rest ∧ Reads word old ∧ before.any isWord = false := by
  rw [afterWord?, Option.ite_none_right_eq_some] at h
  obtain ⟨border, read⟩ := h
  obtain ⟨old, rfl, folds⟩ := afterFolded_eq_some read
  have reads := Reads.of_folds some chars folds
  refine ⟨old, rfl, reads, ?_⟩
  obtain ⟨c, old, rfl⟩ := List.exists_cons_of_ne_nil reads.ne_nil
  have head : isWord c = true := reads.any_head
  simpa [boundary, head] using border

/-- A word ends between two texts where there is a boundary between their characters. -/
lemma endsWord_append {front : List Char} (some : front ≠ []) (rest : List Char) :
    endsWord (front ++ rest) rest = boundary front.getLast? rest.head? := by
  have pos := List.length_pos_iff.2 some
  have position : (front ++ rest).length - rest.length - 1 = front.length - 1 := by
    rw [List.length_append]
    omega
  rw [endsWord, position, List.getElem?_append_left (by omega), List.getLast?_eq_getElem?]

/-- Where a word ends that was read, none goes on. -/
lemma Reads.clear {word : String} {old : List Char} (h : Reads word old) (front : List Char)
    (ends : endsWord (front ++ (old ++ rest)) rest) : Clear rest := by
  have some : front ++ old ≠ [] := fun nil => h.ne_nil (List.append_eq_nil_iff.1 nil).2
  obtain ⟨c, last⟩ := Option.isSome_iff_exists.1 (List.getLast?_isSome.2 h.ne_nil)
  have word : isWord c = true := by
    have any := h.any_getLast
    rwa [last] at any
  rw [← List.append_assoc, endsWord_append some, List.getLast?_append, last] at ends
  simpa [boundary, word] using ends

/-- What is behind blanks has blanks in front of it, at least one. -/
lemma isGap_of_afterBlanks (h : afterBlanks? cs = some rest) : ∃ gap, cs = gap ++ rest ∧ IsGap gap := by
  rw [afterBlanks?, Option.ite_none_right_eq_some, Option.some.injEq] at h
  obtain ⟨blank, rfl⟩ := h
  refine ⟨cs.takeWhile isBlank, List.takeWhile_append_dropWhile.symm, ?_, List.all_takeWhile⟩
  cases cs with
  | nil => cases blank
  | cons c cs => simp [show isBlank c = true from blank]

/-- What is left of a text without the blanks at its start has blanks in front of it. -/
lemma blanks_of_trimStart (h : trimStart cs = rest) :
    ∃ blanks : List Char, blanks.all isBlank ∧ cs = blanks ++ rest :=
  ⟨cs.takeWhile isBlank, List.all_takeWhile, h ▸ List.takeWhile_append_dropWhile.symm⟩

/-- No word starts or ends with blanks. -/
lemma IsGap.clear (h : IsGap cs) : cs.head?.any isWord = false ∧ cs.getLast?.any isWord = false := by
  obtain ⟨some, blank⟩ := h
  constructor
  · obtain ⟨c, more, rfl⟩ := List.exists_cons_of_ne_nil some
    simpa using not_isWord_of_isBlank (Bool.and_eq_true_iff.1 blank).1
  · rw [List.getLast?_eq_some_getLast some]
    simpa using not_isWord_of_isBlank (List.all_eq_true.1 blank _ (List.getLast_mem some))

/-- No word goes on at blanks. -/
lemma IsGap.clear_append {gap : List Char} (h : IsGap gap) (cs : List Char) : Clear (gap ++ cs) := by
  have first := h.clear.1
  obtain ⟨c, gap, rfl⟩ := List.exists_cons_of_ne_nil h.1
  exact first

/-- The mark of a parameter as it is read. -/
def parameterMarks : List (List Char) := [['%', 's'], ['%', 'S'], ['%', 'ſ']]

/-- A count in a pair: digits of some script, or the mark of a parameter. -/
def IsCount (cs : List Char) : Prop := cs ≠ [] ∧ cs.all isDecimal ∨ cs ∈ parameterMarks

/-- A text that is the mark of a parameter but for the case is one of those that are read as it. -/
lemma mem_parameterMarks {cs : List Char} (h : cs.map foldChar = ['%', 's'].map foldChar) :
    cs ∈ parameterMarks := by
  -- What folds like a character of ASCII can be looked up.
  have single {c : Char} {mark : Char} {among : List Char} (eq : foldChar c = mark) (ascii : isAscii mark)
      (check : ∀ n < 128, (Char.ofNat n).toLower = mark → Char.ofNat n ∈ among)
      (long : 'ſ' ∈ among ∨ foldChar 'ſ' ≠ mark) (kelvin : foldChar '\u212A' ≠ mark) : c ∈ among := by
    rcases isAscii_or_of_fold (eq ▸ ascii : isAscii (foldChar c)) with asciic | rfl | rfl
    · rw [foldChar_of_isAscii asciic] at eq
      exact isAscii_induction (fun c => c.toLower = mark → c ∈ among) check asciic eq
    · exact long.resolve_right fun differ => differ eq
    · exact absurd eq kelvin
  match cs, congrArg List.length h with
  | [c, d], _ =>
    obtain ⟨first, tail⟩ := List.cons.inj h
    have percent : c ∈ ['%'] := single first (by decide) (by decide)
      (.inr (by decide)) (by decide)
    have letter : d ∈ ['s', 'S', 'ſ'] := single (List.cons.inj tail).1 (by decide)
      (by decide) (.inl (by decide)) (by decide)
    obtain rfl := List.mem_singleton.1 percent
    simpa [parameterMarks] using letter

/-- A count is a parameter, or the digits up to their end. -/
lemma operand_cases {taken : List Char} (h : operand? cs = some (taken, rest)) :
    cs = taken ++ rest ∧ (taken ∈ parameterMarks ∨
      taken ≠ [] ∧ taken.all isDecimal ∧ rest.head?.any isDecimal = false) := by
  unfold operand? at h
  split at h
  · obtain ⟨after, read, eq⟩ := Option.map_eq_some_iff.1 h
    obtain ⟨mark, rfl, folds⟩ := afterFolded_eq_some read
    have two : mark.length = 2 := by simpa using congrArg List.length folds
    cases eq
    rw [← two, List.take_left]
    exact ⟨rfl, .inl (mem_parameterMarks folds)⟩
  · next some =>
    cases h
    exact ⟨List.takeWhile_append_dropWhile.symm,
      .inr ⟨some, List.all_takeWhile, any_head_dropWhile isDecimal cs⟩⟩

/-- What is read as a count is one. -/
lemma isCount_of_operand {taken : List Char} (h : operand? cs = some (taken, rest)) :
    cs = taken ++ rest ∧ IsCount taken := by
  obtain ⟨split, mark | ⟨some, digits, -⟩⟩ := operand_cases h
  · exact ⟨split, .inr mark⟩
  · exact ⟨split, .inl ⟨some, digits⟩⟩

/-! ## The patterns -/

/-- A word by itself. -/
def OneWord (word new : String) : Change := fun before old new' after =>
  Clear before ∧ Reads word old ∧ Clear after ∧ new' = new.toList

/-- Where a word is found, it stands by itself. -/
lemma finds_findWord {word new : String} (some : word.toList ≠ []) (chars : word.toList.all isWord) :
    Finds (findWord word new) (OneWord word new) := by
  intro before cs m found
  simp only [findWord, Option.bind_eq_bind, Option.bind_eq_some_iff,
    Option.ite_none_right_eq_some, Option.some.injEq] at found
  obtain ⟨rest, read, ends, rfl⟩ := found
  obtain ⟨old, rfl, reads, starts⟩ := reads_of_afterWord some chars read
  refine ⟨old, rest, rfl, reads.ne_nil, by simp [Match.upTo], starts, reads, ?_, rfl⟩
  exact reads.clear [] ends

/-- `NOT REGEXP`. -/
def NotRegexp : Change := fun before old new after => ∃ no gap word,
  Clear before ∧ Reads "NOT" no ∧ IsGap gap ∧ Reads "REGEXP" word ∧ Clear after ∧
    old = no ++ (gap ++ word) ∧ new = "!~".toList

/-- Where a negated match is found, it stands there. -/
lemma finds_findNotRegexp : Finds findNotRegexp NotRegexp := by
  intro before cs m found
  simp only [findNotRegexp, Option.bind_eq_bind, Option.bind_eq_some_iff,
    Option.ite_none_right_eq_some, Option.some.injEq] at found
  obtain ⟨afterNo, readNo, afterGap, readGap, rest, read, ends, rfl⟩ := found
  obtain ⟨no, rfl, readsNo, starts⟩ := reads_of_afterWord (by decide) (by decide) readNo
  obtain ⟨gap, rfl, isGap⟩ := isGap_of_afterBlanks readGap
  obtain ⟨word, rfl, folds⟩ := afterFolded_eq_some read
  have reads := Reads.of_folds (by decide) (by decide) folds
  have clear : Clear rest := reads.clear (no ++ gap) (by rwa [List.append_assoc])
  refine ⟨no ++ (gap ++ word), rest, by simp, by simp [readsNo.ne_nil], ?_, ?_⟩
  · simp only [Match.upTo, List.length_append]
    omega
  · exact ⟨no, gap, word, starts, readsNo, isGap, reads, clear, rfl, rfl⟩

/-- The counts of `LIMIT a, b`. -/
def LimitPair (skip take old : List Char) : Prop := ∃ word gap blanks blanks',
  Reads "LIMIT" word ∧ IsGap gap ∧ IsCount skip ∧ blanks.all isBlank ∧ blanks'.all isBlank ∧
    IsCount take ∧ old = word ++ (gap ++ (skip ++ (blanks ++ ',' :: (blanks' ++ take))))

/-- What comes in the place of `LIMIT a, b`. -/
def clauses (skip take : List Char) : List Char :=
  if skip = ['%', 's'] ∨ take = ['%', 's'] then
    "OFFSET ".toList ++ skip ++ " LIMIT ".toList ++ take
  else "LIMIT ".toList ++ take ++ " OFFSET ".toList ++ skip

/-- `LIMIT a, b`. -/
def Pages : Change := fun before old new _ => ∃ skip take,
  Clear before ∧ LimitPair skip take old ∧ new = clauses skip take

/-- `LIMIT a, b` where the digits of the second count end. -/
def FullPages : Change := fun before old new after => ∃ skip take,
  Clear before ∧ LimitPair skip take old ∧ new = clauses skip take ∧
    (take.all isDecimal → after.head?.any isDecimal = false)

/-- Digits are read to their end. -/
lemma head_of_operand {taken : List Char} (h : operand? cs = some (taken, rest))
    (digits : taken.all isDecimal) : rest.head?.any isDecimal = false := by
  obtain ⟨-, mark | ⟨-, -, ends⟩⟩ := operand_cases h
  · have check : ∀ m ∈ parameterMarks, m.all isDecimal = false := by decide
    rw [check taken mark] at digits
    cases digits
  · exact ends

/-- Where a pair of counts is found, it stands there, with no more of an operand behind it. -/
lemma finds_findLimitPair_full : Finds findLimitPair FullPages := by
  intro before cs m found
  simp only [findLimitPair, Option.bind_eq_bind, Option.bind_eq_some_iff] at found
  obtain ⟨afterWord, readWord, afterGap, readGap, ⟨skip, afterSkip⟩, readSkip, found⟩ := found
  obtain ⟨word, rfl, reads, starts⟩ := reads_of_afterWord (by decide) (by decide) readWord
  obtain ⟨gap, rfl, isGap⟩ := isGap_of_afterBlanks readGap
  obtain ⟨rfl, countSkip⟩ := isCount_of_operand readSkip
  split at found
  · next afterComma comma =>
    simp only [Option.bind_eq_some_iff, Option.some.injEq] at found
    obtain ⟨⟨take, rest⟩, readTake, rfl⟩ := found
    obtain ⟨trimmed, countTake⟩ := isCount_of_operand readTake
    obtain ⟨blanks, blank, rfl⟩ := blanks_of_trimStart comma
    obtain ⟨blanks', blank', rfl⟩ := blanks_of_trimStart trimmed
    refine ⟨word ++ (gap ++ (skip ++ (blanks ++ ',' :: (blanks' ++ take)))), rest, by simp,
      by simp [reads.ne_nil], ?_, ?_⟩
    · simp only [Match.upTo, List.length_append, List.length_cons]
      omega
    · exact ⟨skip, take, starts, ⟨word, gap, blanks, blanks', reads, isGap, countSkip, blank, blank',
        countTake, rfl⟩, rfl, head_of_operand readTake⟩
  · cases found

/-- Where a pair of counts is found, it stands there. -/
lemma finds_findLimitPair : Finds findLimitPair Pages := by
  intro before cs m found
  obtain ⟨old, after, eq, some, length, skip, take, starts, pair, new, -⟩ :=
    finds_findLimitPair_full before cs m found
  exact ⟨old, after, eq, some, length, skip, take, starts, pair, new⟩

/-- `LIMIT -1`. -/
def NoLimit : Change := fun before old new after => ∃ word gap,
  Clear before ∧ Reads "LIMIT" word ∧ IsGap gap ∧ Clear after ∧
    old = word ++ (gap ++ ['-', '1']) ∧ new = "LIMIT ALL".toList

/-- Where a bound that is none is found, it stands there. -/
lemma finds_findNoLimit : Finds findNoLimit NoLimit := by
  intro before cs m found
  simp only [findNoLimit, Option.bind_eq_bind, Option.bind_eq_some_iff] at found
  obtain ⟨afterWord, readWord, afterGap, readGap, found⟩ := found
  obtain ⟨word, rfl, reads, starts⟩ := reads_of_afterWord (by decide) (by decide) readWord
  obtain ⟨gap, rfl, isGap⟩ := isGap_of_afterBlanks readGap
  split at found
  · next rest =>
    rw [Option.ite_none_right_eq_some, Option.some.injEq] at found
    obtain ⟨border, rfl⟩ := found
    have one : isWord '1' = true := by decide
    have clear : Clear rest := by simpa [boundary, one] using border
    refine ⟨word ++ (gap ++ ['-', '1']), rest, by simp, by simp [reads.ne_nil], ?_, ?_⟩
    · simp only [Match.upTo, List.length_append, List.length_cons, List.length_nil]
      omega
    · exact ⟨word, gap, starts, reads, isGap, clear, rfl, rfl⟩
  · cases found

end Tenancy.Sql
