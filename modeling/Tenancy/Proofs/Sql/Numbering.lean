import Tenancy.Proofs.Sql.Quotation

/-!
# Parameters are numbered in order

Where code has none of the marks that the rules put in, and no sign that one of them would join, every
parameter mark goes to the server as one parameter, and these are numbered from left to right:
`parameters_forServer`. What carries this through the rules are the `operators` of the code, its
parameters and percent signs in order, and that it stays `Numberable`.
-/

namespace Tenancy.Sql
open Text

/-! ## Parameters and percent signs -/

/-- The parameters of code as callers mark them, as question marks, and its other percent signs, in
order. -/
def operators : List Char → List Char
  | [] => []
  | c :: cs =>
    (if c = '%' then [if cs.head? = some 's' then '?' else '%'] else []) ++ operators cs

/-- Whether no percent sign stands in front of another, and no parameter in front of a digit. -/
def Numberable : List Char → Prop
  | [] => True
  | c :: cs =>
    (c = '%' → cs.head? ≠ some '%' ∧ (cs.head? = some 's' → cs.tail.head?.any Char.isDigit = false)) ∧
      Numberable cs

/-- The numbers of the parameters in code as the server reads them, in order. -/
def parameters : List Char → List (List Char)
  | [] => []
  | c :: cs =>
    if c = '$' then cs.takeWhile Char.isDigit :: parameters cs else parameters cs

variable {cs ds es : List Char}

/-- The operators of a text are those of its two parts, if the first part does not end with a percent sign. -/
lemma operators_append (h : cs.getLast? ≠ some '%') (ds : List Char) :
    operators (cs ++ ds) = operators cs ++ operators ds := by
  induction cs with
  | nil => rfl
  | cons c cs ih =>
    cases cs with
    | nil =>
      have other : c ≠ '%' := by simpa using h
      simp [operators, other]
    | cons d cs =>
      have tail := ih (by simpa using h)
      have whole : operators (c :: d :: cs) =
          (if c = '%' then [if d = 's' then '?' else '%'] else []) ++ operators (d :: cs) := by
        rw [operators]
        simp
      rw [List.cons_append, operators, tail, whole, List.append_assoc]
      simp

/-- Without percent signs there are no operators. -/
lemma operators_of_not_mem (h : '%' ∉ cs) : operators cs = [] := by
  induction cs with
  | nil => rfl
  | cons c cs ih =>
    simp only [List.mem_cons, not_or] at h
    rw [operators, if_neg (Ne.symm h.1), ih h.2]
    rfl

/-- The last part of a text that can be numbered can be numbered. -/
lemma Numberable.of_append (h : Numberable (cs ++ ds)) : Numberable ds := by
  induction cs with
  | nil => exact h
  | cons c cs ih => exact ih h.2

/-- A text without percent signs can stand in front of one that can be numbered. -/
lemma Numberable.append (h : '%' ∉ cs) (hd : Numberable ds) : Numberable (cs ++ ds) := by
  induction cs with
  | nil => exact hd
  | cons c cs ih =>
    simp only [List.mem_cons, not_or] at h
    exact ⟨fun eq => absurd eq.symm h.1, ih h.2⟩

/-! ## What the rules keep -/

/-- What a step of the rules does to code as far as its parameters go. -/
structure Keeps (cs ds : List Char) : Prop where
  operators : operators ds = operators cs
  numberable : Numberable cs → Numberable ds
  dollar : '$' ∉ cs → '$' ∉ ds
  mark : '?' ∉ cs → '?' ∉ ds

/-- One step after the other keeps what both keep. -/
lemma Keeps.trans (h : Keeps cs ds) (h' : Keeps ds es) : Keeps cs es where
  operators := h'.operators.trans h.operators
  numberable n := h'.numberable (h.numberable n)
  dollar none := h'.dollar (h.dollar none)
  mark none := h'.mark (h.mark none)

/-- Whether a change keeps parameters and percent signs and joins nothing to them. -/
structure Discreet (old new : List Char) : Prop where
  old_ne : old.head? ≠ some 's' ∧ old.getLast? ≠ some '%'
  new_ne : new ≠ [] ∧ new.getLast? ≠ some '%'
  starts : new.head? ≠ some 's' ∧ new.head? ≠ some '%' ∧ new.head?.any Char.isDigit = false
  operators : operators new = operators old
  numberable : ∀ cs ds, Numberable (old ++ cs) → Numberable ds →
    (ds.head?.any Char.isDigit → cs.head?.any Char.isDigit) → Numberable (new ++ ds)
  dollar : '$' ∉ new
  mark : '?' ∉ new

/-- A change that has to do with no percent sign. -/
lemma Discreet.of_not_mem {old new : List Char} (none : '%' ∉ old) (none' : '%' ∉ new)
    (some : new ≠ []) (start : old.head? ≠ Option.some 's')
    (starts : new.head? ≠ Option.some 's' ∧ new.head?.any Char.isDigit = false) (dollar : '$' ∉ new)
    (mark : '?' ∉ new) : Discreet old new where
  old_ne := ⟨start, fun last => none (List.mem_of_getLast? last)⟩
  new_ne := ⟨some, fun last => none' (List.mem_of_getLast? last)⟩
  starts := ⟨starts.1, fun first => none' (List.mem_of_head? first), starts.2⟩
  operators := by rw [operators_of_not_mem none, operators_of_not_mem none']
  numberable _ _ _ hd _ := .append none' hd
  dollar := dollar
  mark := mark

section Edits
variable {P : Change} {rest before : List Char}

/-- A discreet edit starts with a sign where the text did. -/
lemma Edit.head_iff (e : Edit P rest before cs ds)
    (discreet : ∀ before old new after, P before old new after → Discreet old new) :
    (ds.head? = some 's' ↔ cs.head? = some 's') ∧ (ds.head? = some '%' → cs.head? = some '%') ∧
      (ds.head?.any Char.isDigit → cs.head?.any Char.isDigit) := by
  cases e with
  | nil => exact ⟨.rfl, id, id⟩
  | keep c _ => exact ⟨.rfl, id, id⟩
  | @put _ old new cs ds some place _ =>
    have here := discreet _ _ _ _ place
    obtain ⟨c, old, rfl⟩ := List.exists_cons_of_ne_nil some
    obtain ⟨d, new, rfl⟩ := List.exists_cons_of_ne_nil here.new_ne.1
    have start := here.old_ne.1
    obtain ⟨letter, sign, digit⟩ := here.starts
    refine ⟨⟨fun h => absurd h letter, fun h => absurd h start⟩, fun h => absurd h sign, fun h => ?_⟩
    rw [List.cons_append, List.head?_cons] at h
    rw [List.head?_cons, h] at digit
    cases digit

/-- An edit made of discreet changes keeps operators. -/
lemma Edit.keeps (e : Edit P rest before cs ds)
    (discreet : ∀ before old new after, P before old new after → Discreet old new) : Keeps cs ds := by
  have dollar := fun none =>
    e.not_mem (c := '$') (fun _ _ _ _ place => (discreet _ _ _ _ place).dollar) none
  have mark := fun none => e.not_mem (c := '?') (fun _ _ _ _ place => (discreet _ _ _ _ place).mark) none
  suffices both : operators ds = operators cs ∧ (Numberable cs → Numberable ds) from
    ⟨both.1, both.2, dollar, mark⟩
  clear dollar mark
  induction e with
  | nil => exact ⟨rfl, id⟩
  | @keep _ cs ds c e ih =>
    obtain ⟨same, number⟩ := ih
    obtain ⟨letter, sign, -⟩ := e.head_iff discreet
    refine ⟨?_, fun h => ⟨fun eq => ?_, number h.2⟩⟩
    · simp only [operators, same, letter]
    · obtain ⟨single, free⟩ := h.1 eq
      refine ⟨fun first => single (sign first), fun first => ?_⟩
      -- The letter of a parameter is kept, and what follows it starts with no new digit.
      cases e with
      | nil => cases first
      | keep d e =>
        have none := free (letter.1 first)
        rw [Bool.eq_false_iff]
        intro digit
        have digit' := (e.head_iff discreet).2.2 digit
        rw [List.tail_cons] at none
        rw [none] at digit'
        cases digit'
      | put some place e =>
        have here := discreet _ _ _ _ place
        obtain ⟨d, new, rfl⟩ := List.exists_cons_of_ne_nil here.new_ne.1
        exact absurd first here.starts.1
  | @put _ old new cs ds some place e ih =>
    obtain ⟨same, number⟩ := ih
    have here := discreet _ _ _ _ place
    refine ⟨?_, fun h => here.numberable cs ds h (number h.of_append) (e.head_iff discreet).2.2⟩
    rw [operators_append here.new_ne.2, operators_append here.old_ne.2, here.operators, same]

end Edits

/-! ## The rules -/

/-- What is read as a word does not start with a character that is not in the word. -/
lemma Reads.head_ne {word : String} (h : Reads word cs) {c : Char}
    (other : foldChar c ∉ word.toList.map foldChar) (more : List Char) :
    (cs ++ more).head? ≠ some c := by
  have none := h.not_mem other
  obtain ⟨d, cs, rfl⟩ := List.exists_cons_of_ne_nil h.ne_nil
  rintro ⟨⟩
  exact none List.mem_cons_self

/-- A character that is not as all characters of a text are is not in the text. -/
lemma not_mem_of_all {q : Char → Bool} {c : Char} (h : cs.all q) (other : q c = false) : c ∉ cs := by
  intro mem
  rw [List.all_eq_true.1 h c mem] at other
  cases other

/-- To replace a word is discreet, if neither the word nor the new one has to do with marks. -/
lemma OneWord.discreet {word new : String} {before old new' after : List Char}
    (h : OneWord word new before old new' after)
    (clear : foldChar '%' ∉ word.toList.map foldChar ∧ foldChar 's' ∉ word.toList.map foldChar)
    (clear' : new.toList ≠ [] ∧ '%' ∉ new.toList ∧ new.toList.head? ≠ some 's' ∧
      new.toList.head?.any Char.isDigit = false ∧ '$' ∉ new.toList ∧ '?' ∉ new.toList) :
    Discreet old new' := by
  obtain ⟨-, reads, -, rfl⟩ := h
  obtain ⟨some, percent, start, digit, dollar, mark⟩ := clear'
  have first := reads.head_ne clear.2 []
  rw [List.append_nil] at first
  exact .of_not_mem (reads.not_mem clear.1) percent some first ⟨start, digit⟩ dollar mark

/-- To replace a negated match is discreet. -/
lemma NotRegexp.discreet {before old new after : List Char} (h : NotRegexp before old new after) :
    Discreet old new := by
  obtain ⟨no, gap, word, -, readsNo, isGap, reads, -, rfl, rfl⟩ := h
  refine .of_not_mem ?_ (by decide) (by decide) (readsNo.head_ne (by decide) _) (by decide)
    (by decide) (by decide)
  simp only [List.mem_append, not_or]
  exact ⟨readsNo.not_mem (by decide), not_mem_of_all isGap.2 (by decide),
    reads.not_mem (by decide)⟩

/-- To replace a bound that is none is discreet. -/
lemma NoLimit.discreet {before old new after : List Char} (h : NoLimit before old new after) :
    Discreet old new := by
  obtain ⟨word, gap, -, reads, isGap, -, rfl, rfl⟩ := h
  refine .of_not_mem ?_ (by decide) (by decide) (reads.head_ne (by decide) _) (by decide)
    (by decide) (by decide)
  simp only [List.mem_append, not_or]
  exact ⟨reads.not_mem (by decide), not_mem_of_all isGap.2 (by decide), by decide⟩

/-- Without percent signs a first part has no operators. -/
lemma operators_append_left (h : '%' ∉ cs) (ds : List Char) : operators (cs ++ ds) = operators ds := by
  rw [operators_append fun last => h (List.mem_of_getLast? last), operators_of_not_mem h]
  rfl

/-- A count that is not a mark has no operators, or is a percent sign. -/
lemma IsCount.operators {count : List Char} (h : IsCount count) (other : count ≠ ['%', 's']) :
    operators count = [] ∨ operators count = ['%'] := by
  rcases h with ⟨-, digits⟩ | mark
  · exact .inl (operators_of_not_mem (not_mem_of_all digits (by decide)))
  · have check : ∀ m ∈ parameterMarks, m ≠ ['%', 's'] → Sql.operators m = ['%'] := by decide
    exact .inr (check count mark other)

/-- A count does not end with a percent sign. -/
lemma IsCount.getLast_ne {count : List Char} (h : IsCount count) : count.getLast? ≠ some '%' := by
  obtain ⟨c, last, word, -⟩ := h.getLast
  rw [last]
  rintro ⟨⟩
  exact absurd word (by decide)

/-- A count can stand in front of what can be numbered, and a mark in front of what starts with no digit. -/
lemma IsCount.numberable {count : List Char} (h : IsCount count) (hd : Numberable ds)
    (free : count = ['%', 's'] → ds.head?.any Char.isDigit = false) : Numberable (count ++ ds) := by
  rcases h with ⟨-, digits⟩ | mark
  · exact .append (not_mem_of_all digits (by decide)) hd
  · simp only [parameterMarks, List.mem_cons, List.not_mem_nil, or_false] at mark
    rcases mark with rfl | rfl | rfl
    · exact ⟨fun _ => ⟨by simp, fun _ => free rfl⟩, by rintro ⟨⟩, hd⟩
    · exact ⟨fun _ => ⟨by simp, by simp⟩, by rintro ⟨⟩, hd⟩
    · exact ⟨fun _ => ⟨by simp, by simp⟩, by rintro ⟨⟩, hd⟩

/-- The two clauses have the operators of the counts, in their order. -/
lemma operators_clauses {skip take : List Char} (hs : IsCount skip) (ht : IsCount take) :
    operators (clauses skip take) = operators skip ++ operators take := by
  have left {front back : List Char} (none : '%' ∉ back) (h : front.getLast? ≠ some '%') :
      operators (front ++ back) = operators front := by
    rw [operators_append h, operators_of_not_mem none, List.append_nil]
  rw [clauses]
  split
  · rw [List.append_assoc, List.append_assoc, operators_append_left (by decide),
      operators_append hs.getLast_ne, operators_append_left (by decide)]
  · next none =>
    rw [not_or] at none
    rw [List.append_assoc, List.append_assoc, operators_append_left (by decide),
      operators_append ht.getLast_ne, operators_append_left (by decide)]
    -- Both counts hold percent signs alone, so the order is no matter.
    rcases hs.operators none.1 with eq | eq <;> rcases ht.operators none.2 with eq' | eq' <;>
      rw [eq, eq'] <;> rfl

/-- To replace a pair of counts is discreet. -/
lemma Pages.discreet {before old new after : List Char} (h : Pages before old new after) :
    Discreet old new := by
  obtain ⟨skip, take, -, pair, rfl⟩ := h
  obtain ⟨word, gap, blanks, blanks', reads, isGap, count, blank, blank', count', rfl⟩ := id pair
  have bare := isBare_clauses count count'
  have last := getLast_clauses count count'
  have start := head_clauses skip take
  refine ⟨⟨reads.head_ne (by decide) _, ?_⟩, ⟨?_, ?_⟩, ?_, ?_, ?_, ?_, ?_⟩
  · rw [pair.getLast]
    exact count'.getLast_ne
  · rintro nil
    rw [nil] at start
    rcases start with h | h <;> cases h
  · rw [last]
    split
    · exact count'.getLast_ne
    · exact count.getLast_ne
  · rcases start with h | h <;> rw [h] <;> decide
  · rw [operators_clauses count count', operators_append_left (reads.not_mem (by decide)),
      operators_append_left (not_mem_of_all isGap.2 (by decide)),
      operators_append count.getLast_ne,
      operators_append_left (not_mem_of_all blank (by decide)),
      ← List.singleton_append, operators_append_left (by decide),
      operators_append_left (not_mem_of_all blank' (by decide))]
  · intro cs ds h hd digit
    have free : take = ['%', 's'] → ds.head?.any Char.isDigit = false := by
      rintro rfl
      have tail : Numberable (['%', 's'] ++ cs) := by
        have whole : Numberable
            (word ++ (gap ++ (skip ++ (blanks ++ ',' :: blanks'))) ++ (['%', 's'] ++ cs)) := by
          simpa using h
        exact whole.of_append
      rw [Bool.eq_false_iff]
      intro start
      have none : cs.head?.any Char.isDigit = false := (tail.1 rfl).2 rfl
      rw [digit start] at none
      cases none
    rw [clauses]
    split
    · rw [List.append_assoc, List.append_assoc, List.append_assoc]
      refine .append (by decide) (count.numberable (.append (by decide) (count'.numberable hd free)) ?_)
      exact fun _ => rfl
    · next none =>
      rw [not_or] at none
      rw [List.append_assoc, List.append_assoc, List.append_assoc]
      refine .append (by decide) (count'.numberable (.append (by decide) (count.numberable hd ?_)) ?_)
      · exact fun eq => absurd eq none.1
      · exact fun eq => absurd eq none.2
  · exact not_mem_of_all bare (by decide)
  · have digits : ∀ c, isDecimal c → decide (c ≠ '?') := by
      intro c digit
      refine decide_eq_true ?_
      rintro rfl
      exact absurd digit (by decide)
    exact not_mem_of_all (q := fun c => c ≠ '?') (all_clauses count count' digits (by decide) (by decide))
      (by decide)

/-! ## Parameter marks -/

/-- Whether no character of a text is, with the one after it, as `p` says. -/
def avoids (p : Char → Option Char → Bool) : List Char → Bool
  | [] => true
  | c :: cs => !p c cs.head? && avoids p cs

/-- Whether code has no parameters or percent signs as the server's side writes them. -/
def isUnmarked : List Char → Bool :=
  avoids fun c d => c = '$' || (c = '%' && (d = some 's' || d = some '%'))

/-- Whether no percent sign stands right in front of a parameter mark, and no digit right after one. -/
def isUnjoined : List Char → Bool :=
  avoids fun c d => (c = '%' && d = some '?') || (c = '?' && d.any Char.isDigit)

/-- A parameter mark or a percent sign. -/
def isOperator (c : Char) : Bool := c = '?' || c = '%'

/-- Code after the first rule. -/
def withMarks (cs : List Char) : List Char := replaceText ['?'] ['%', 's'] cs

/-- A question mark becomes a mark, and any other character stays. -/
lemma withMarks_cons (c : Char) (cs : List Char) :
    withMarks (c :: cs) = if c = '?' then '%' :: 's' :: withMarks cs else c :: withMarks cs := by
  rw [withMarks, replaceText, if_neg (by simp)]
  by_cases mark : c = '?'
  · subst mark
    rfl
  · rw [if_neg mark, if_neg (by simpa using Ne.symm mark)]
    rfl

/-- The first character tells how a text with marks starts. -/
lemma head_withMarks (cs : List Char) :
    (withMarks cs).head? = if cs.head? = some '?' then some '%' else cs.head? := by
  cases cs with
  | nil =>
    rw [withMarks, replaceText]
    rfl
  | cons c cs =>
    rw [withMarks_cons]
    by_cases mark : c = '?'
    · simp [mark]
    · simp [mark]

/-- In code that has no marks of its own and joins nothing to the new ones, these are its operators, and can
be numbered. -/
lemma operators_withMarks (h : isUnmarked cs) (apart : isUnjoined cs) :
    operators (withMarks cs) = cs.filter isOperator ∧ Numberable (withMarks cs) := by
  induction cs with
  | nil =>
    rw [withMarks, replaceText]
    exact ⟨rfl, trivial⟩
  | cons c cs ih =>
    obtain ⟨here, unmarked⟩ := Bool.and_eq_true_iff.1 h
    obtain ⟨here', unjoined⟩ := Bool.and_eq_true_iff.1 apart
    obtain ⟨same, number⟩ := ih unmarked unjoined
    have head := head_withMarks cs
    rw [withMarks_cons]
    by_cases mark : c = '?'
    · subst mark
      rw [if_pos rfl, List.filter_cons_of_pos (by decide), operators, operators, same]
      refine ⟨rfl, fun _ => ⟨by simp, fun _ => ?_⟩, by rintro ⟨⟩, number⟩
      rw [List.tail_cons, head]
      split
      · rfl
      · simpa using here'
    · rw [if_neg mark, operators, same]
      by_cases percent : c = '%'
      · subst percent
        have follow : cs.head? ≠ some 's' ∧ cs.head? ≠ some '%' := by simpa using here
        have other : cs.head? ≠ some '?' := by simpa using here'
        rw [if_neg other] at head
        rw [List.filter_cons_of_pos (by decide), if_pos rfl, head, if_neg follow.1]
        refine ⟨rfl, fun _ => ⟨?_, fun first => ?_⟩, number⟩
        · rw [head]
          exact follow.2
        · rw [head] at first
          exact absurd first follow.1
      · rw [List.filter_cons_of_neg (by simp [isOperator, mark, percent]), if_neg percent]
        exact ⟨rfl, fun eq => absurd eq percent, number⟩

/-- Code that has no marks of its own has neither dollar signs nor question marks afterwards. -/
lemma dollar_withMarks (h : isUnmarked cs) : '$' ∉ withMarks cs ∧ '?' ∉ withMarks cs := by
  induction cs with
  | nil => simp [withMarks, replaceText]
  | cons c cs ih =>
    obtain ⟨here, unmarked⟩ := Bool.and_eq_true_iff.1 h
    obtain ⟨dollar, mark⟩ := ih unmarked
    have other : c ≠ '$' := by
      rintro rfl
      cases here
    rw [withMarks_cons]
    split
    · simp [dollar, mark]
    · next single => simp [dollar, mark, Ne.symm other, Ne.symm single]

/-- The rules after the first keep what has to do with parameters. -/
lemma keeps_rules (definition : Bool) (cs : List Char) :
    Keeps (withMarks cs) (legacyRules.foldl (fun code r => r.apply definition code) cs) := by
  have notRegexp (cs : List Char) : Keeps cs (substitute findNotRegexp none cs) :=
    (edit_substitute finds_findNotRegexp [] cs).keeps fun _ _ _ _ place => place.discreet
  have regexp (cs : List Char) : Keeps cs (substitute (findWord "REGEXP" "~") none cs) :=
    (edit_substitute (finds_findWord (by decide) (by decide)) [] cs).keeps
      fun _ _ _ _ place => place.discreet (by decide) (by decide)
  have pages (cs : List Char) : Keeps cs (substitute findLimitPair none cs) :=
    (edit_substitute finds_findLimitPair [] cs).keeps fun _ _ _ _ place => place.discreet
  have noLimit (cs : List Char) : Keeps cs (substitute findNoLimit none cs) :=
    (edit_substitute finds_findNoLimit [] cs).keeps fun _ _ _ _ place => place.discreet
  have bytes (cs : List Char) : Keeps cs (substitute (findWord "BLOB" "BYTEA") none cs) :=
    (edit_substitute (finds_findWord (by decide) (by decide)) [] cs).keeps
      fun _ _ _ _ place => place.discreet (by decide) (by decide)
  have before := (((notRegexp (withMarks cs)).trans (regexp _)).trans (pages _)).trans (noLimit _)
  cases definition with
  | false => exact before
  | true => exact before.trans (bytes _)

/-! ## Numbering -/

/-- A parameter gets its number, and a percent sign that was doubled stands alone. -/
def Numbers : Change := fun _ old new _ =>
  old = ['%', 's'] ∧ (∃ k, new = '$' :: Nat.toDigits 10 k) ∨ old = ['%', '%'] ∧ new = ['%']

/-- To number code is to edit it. -/
lemma edit_numberCode (n : Nat) (before cs : List Char) :
    Edit Numbers [] before cs (numberCode n cs).1 := by
  fun_induction numberCode n cs generalizing before with
  | case1 => exact .nil
  | case2 n c => exact .keep c .nil
  | case3 n c d cs eq out m run ih =>
    obtain ⟨rfl, rfl⟩ := eq
    rw [run] at ih
    have parameter : Numbers before ['%', 's'] ('$' :: Nat.toDigits 10 (n + 1)) (cs ++ []) :=
      .inl ⟨rfl, n + 1, rfl⟩
    exact .put (by simp) parameter (ih _)
  | case4 n c d cs _ eq out m run ih =>
    obtain ⟨rfl, rfl⟩ := eq
    rw [run] at ih
    have percent : Numbers before ['%', '%'] ['%'] (cs ++ []) := .inr ⟨rfl, rfl⟩
    exact .put (by simp) percent (ih _)
  | case5 n c d cs _ _ out m run ih =>
    rw [run] at ih
    exact .keep c (ih _)

/-- The numeral of a number has digits, and nothing else. -/
lemma digits_toDigits (k : Nat) : Nat.toDigits 10 k ≠ [] ∧ (Nat.toDigits 10 k).all Char.isDigit :=
  ⟨Nat.toDigits_ne_nil, List.all_eq_true.2 fun _ mem =>
    Nat.isDigit_of_mem_toDigits (by decide) (by decide) mem⟩

/-- Numbered code stands where code stood that has no dollar sign. -/
lemma stands_numberCode {rest : List Char} (n : Nat) (some : cs ≠ []) (dollar : '$' ∉ cs) :
    Stands rest cs (numberCode n cs).1 := by
  refine (edit_numberCode n [] cs).stands_of some ?_ fun mem => absurd mem dollar
  rintro front old new after - (⟨rfl, k, rfl⟩ | ⟨rfl, rfl⟩)
  · obtain ⟨digit_ne, digits⟩ := digits_toDigits k
    have name : (Nat.toDigits 10 k).all isNameChar := by
      refine all_of_imp (fun c digit => ?_) digits
      simp [isNameChar, Char.isAlphanum, digit]
    have last : ('$' :: Nat.toDigits 10 k).getLast? =
        Option.some ((Nat.toDigits 10 k).getLast digit_ne) := by
      rw [List.getLast?_cons, List.getLast?_eq_some_getLast digit_ne]
      rfl
    have digit := List.all_eq_true.1 digits _ (List.getLast_mem digit_ne)
    have other : (Nat.toDigits 10 k).getLast digit_ne ≠ 'E' ∧
        (Nat.toDigits 10 k).getLast digit_ne ≠ 'e' := by
      constructor
      · intro eq
        rw [eq] at digit
        cases digit
      · intro eq
        rw [eq] at digit
        cases digit
    refine ⟨by simp, ?_, by simp, by simp, fun _ => ?_, fun _ b b' => ?_⟩
    · rw [isPlain, isPlain_of_isBare (all_of_imp (fun _ => isBare_of_isNameChar) name), Bool.and_true,
        Bool.or_eq_true]
      refine .inr ?_
      obtain ⟨c, more, eq⟩ := List.exists_cons_of_ne_nil digit_ne
      rw [eq] at digits ⊢
      exact (Bool.and_eq_true_iff.1 digits).1
    · rw [last]
      exact (List.all_eq_true.1 name _ (List.getLast_mem digit_ne)).symm
    · rw [isEscapeLiteral_of_getLast last other,
        isEscapeLiteral_of_getLast (c := 's') rfl (by decide)]
  · exact ⟨by simp, by decide, by decide, by decide, fun _ => rfl, fun _ _ _ => rfl⟩

/-- In front of the first dollar sign there are no parameters. -/
lemma parameters_append (h : '$' ∉ cs) (ds : List Char) : parameters (cs ++ ds) = parameters ds := by
  induction cs with
  | nil => rfl
  | cons c cs ih =>
    simp only [List.mem_cons, not_or] at h
    rw [List.cons_append, parameters, if_neg (Ne.symm h.1), ih h.2]

/-- How the server sees a parameter mark or a percent sign. -/
def serverOperator (c : Char) : Char := if c = '?' then '$' else c

/-- What numbering makes of code in which it can be done, `n` parameters having been numbered before. -/
structure Numbered (n : Nat) (cs out : List Char) (m : Nat) : Prop where
  count : m = n + (operators cs).count '?'
  parameters : parameters out =
    (List.range' (n + 1) ((operators cs).count '?')).map (Nat.toDigits 10)
  operators : out.filter (fun c => c = '$' || c = '%') = (operators cs).map serverOperator
  digit : out.head?.any Char.isDigit → cs.head?.any Char.isDigit

/-- A parameter gets the next number. -/
lemma Numbered.parameter {n m : Nat} {out : List Char} (h : Numbered (n + 1) cs out m)
    (free : cs.head?.any Char.isDigit = false) :
    Numbered n ('%' :: 's' :: cs) ('$' :: Nat.toDigits 10 (n + 1) ++ out) m := by
  obtain ⟨-, digits⟩ := digits_toDigits (n + 1)
  have whole : Sql.operators ('%' :: 's' :: cs) = '?' :: Sql.operators cs := rfl
  have stop : out.takeWhile Char.isDigit = [] := by
    cases out with
    | nil => rfl
    | cons c out =>
      refine List.takeWhile_cons_of_neg fun digit => ?_
      rw [h.digit digit] at free
      cases free
  have clear : ∀ c ∈ Nat.toDigits 10 (n + 1), c ≠ '$' ∧ c ≠ '%' := by
    intro c mem
    have digit := List.all_eq_true.1 digits c mem
    constructor
    · rintro rfl
      cases digit
    · rintro rfl
      cases digit
  refine ⟨?_, ?_, ?_, nofun⟩
  · rw [h.count, whole, List.count_cons_self]
    omega
  · rw [whole, List.count_cons_self, List.range'_succ, List.map_cons, ← h.parameters, List.cons_append,
      Sql.parameters, if_pos rfl, List.takeWhile_append_of_pos (List.all_eq_true.1 digits), stop,
      List.append_nil, parameters_append fun mem => (clear _ mem).1 rfl]
  · have none : (Nat.toDigits 10 (n + 1)).filter (fun c => c = '$' || c = '%') = [] := by
      refine List.filter_eq_nil_iff.2 fun c mem => ?_
      simp [clear c mem]
    rw [List.cons_append, List.filter_cons_of_pos (by decide), List.filter_append, none, h.operators, whole]
    rfl

/-- Any other character is kept. -/
lemma Numbered.cons {n m : Nat} {out : List Char} {c : Char} (h : Numbered n cs out m) (dollar : c ≠ '$')
    (other : c = '%' → cs.head? ≠ some 's') : Numbered n (c :: cs) (c :: out) m := by
  have whole : Sql.operators (c :: cs) = (if c = '%' then ['%'] else []) ++ Sql.operators cs := by
    rw [Sql.operators]
    by_cases percent : c = '%'
    · rw [if_pos percent, if_pos percent, if_neg (other percent)]
    · rw [if_neg percent, if_neg percent]
  have count : (Sql.operators (c :: cs)).count '?' = (Sql.operators cs).count '?' := by
    rw [whole]
    split <;> simp
  refine ⟨?_, ?_, ?_, id⟩
  · rw [count, h.count]
  · rw [count, Sql.parameters, if_neg dollar, h.parameters]
  · rw [whole, List.filter_cons, h.operators]
    by_cases percent : c = '%'
    · subst percent
      rfl
    · simp [dollar, percent]

/-- Code that can be numbered and has no dollar sign is numbered as the operators in it tell. -/
lemma numbered_numberCode (n : Nat) (number : Numberable cs) (dollar : '$' ∉ cs) :
    Numbered n cs (numberCode n cs).1 (numberCode n cs).2 := by
  fun_induction numberCode n cs with
  | case1 n => exact ⟨rfl, rfl, rfl, id⟩
  | case2 n c =>
    simp only [List.mem_singleton] at dollar
    exact .cons ⟨rfl, rfl, rfl, id⟩ (Ne.symm dollar) (by simp)
  | case3 n c d cs eq out m run ih =>
    obtain ⟨rfl, rfl⟩ := eq
    simp only [List.mem_cons, not_or] at dollar
    have later := ih number.2.2 dollar.2.2
    rw [run] at later
    exact later.parameter ((number.1 rfl).2 rfl)
  | case4 n c d cs _ eq out m run ih =>
    obtain ⟨rfl, rfl⟩ := eq
    exact absurd rfl (number.1 rfl).1
  | case5 n c d cs mark _ out m run ih =>
    simp only [List.mem_cons, not_or] at dollar
    have later := ih number.2 (by simpa using dollar.2)
    rw [run] at later
    exact later.cons (Ne.symm dollar.1) fun percent first => mark ⟨percent, by simpa using first⟩

/-! ## Whole statements -/

/-- What a function gives for the stretches of code, in order. -/
def ofCode {α : Type} (f : List Char → List α) (ls : List Lexeme) : List α :=
  ls.flatMap fun l => if l.kind = .code then f l.text else []

/-- The first stretch of code gives the first part. -/
lemma ofCode_code {α : Type} (f : List Char → List α) (t : List Char) (ls : List Lexeme) :
    ofCode f (⟨.code, t⟩ :: ls) = f t ++ ofCode f ls := rfl

/-- What is not code gives nothing. -/
lemma ofCode_other {α : Type} (f : List Char → List α) {l : Lexeme} (other : l.kind ≠ .code)
    (ls : List Lexeme) : ofCode f (l :: ls) = ofCode f ls := by
  rw [ofCode, List.flatMap_cons, if_neg other]
  rfl

/-- When a statement is numbered, each stretch of code becomes another one, or nothing is changed. -/
lemma recoded_numbered (n : Nat) {ls : List Lexeme} (h : ∀ t, ⟨.code, t⟩ ∈ ls → t ≠ [] ∧ '$' ∉ t) :
    Recoded ls (numbered n ls) := by
  induction ls generalizing n with
  | nil => exact .nil
  | cons l ls ih =>
    have tail (n : Nat) := ih n fun t mem => h t (List.mem_cons_of_mem l mem)
    obtain ⟨kind, t⟩ := l
    rw [numbered]
    split
    · next code =>
      obtain rfl : kind = .code := code
      obtain ⟨some, dollar⟩ := h t List.mem_cons_self
      exact .code (stands_numberCode n some dollar) (tail _)
    · next other => exact .quoted other (tail n)

/-- The parameters of a numbered statement have consecutive numbers, one for each mark. -/
lemma parameters_numbered (n : Nat) {ls : List Lexeme}
    (h : ∀ t, ⟨.code, t⟩ ∈ ls → Numberable t ∧ '$' ∉ t) :
    ofCode parameters (numbered n ls) =
      (List.range' (n + 1) ((ofCode operators ls).count '?')).map (Nat.toDigits 10) := by
  induction ls generalizing n with
  | nil => rfl
  | cons l ls ih =>
    have tail (n : Nat) := ih n fun t mem => h t (List.mem_cons_of_mem l mem)
    obtain ⟨kind, t⟩ := l
    rw [numbered]
    split
    · next code =>
      obtain rfl : kind = .code := code
      obtain ⟨number, dollar⟩ := h t List.mem_cons_self
      have here := numbered_numberCode n number dollar
      rw [ofCode_code, tail, here.parameters, here.count, ofCode_code, List.count_append,
        ← List.map_append, Nat.add_right_comm n, List.range'_append_1]
    · next other => rw [ofCode_other _ other, ofCode_other _ other, tail]

/-- As many parameters are in code as there were parameter marks. -/
lemma count_operators {f : List Char → List Char} {ls : List Lexeme}
    (h : ∀ t, ⟨.code, t⟩ ∈ ls → operators (f t) = t.filter isOperator) :
    (ofCode operators (ls.map (recode f))).count '?' = (ofCode id ls).count '?' := by
  induction ls with
  | nil => rfl
  | cons l ls ih =>
    have tail := ih fun t mem => h t (List.mem_cons_of_mem l mem)
    obtain ⟨kind, t⟩ := l
    rw [List.map_cons, recode]
    split
    · next code =>
      obtain rfl : kind = .code := code
      rw [ofCode_code, ofCode_code, List.count_append, List.count_append, tail, h t List.mem_cons_self,
        List.count_filter (by decide), id]
    · next other => rw [ofCode_other _ other, ofCode_other _ other, tail]

/-- What the rules make of code that has no marks: they keep its parameters, and these can be numbered. -/
lemma operators_rules (definition : Bool) (h : isUnmarked cs) (apart : isUnjoined cs) :
    let out := legacyRules.foldl (fun code r => r.apply definition code) cs
    operators out = cs.filter isOperator ∧ Numberable out ∧ '$' ∉ out ∧ '?' ∉ out := by
  obtain ⟨same, number⟩ := operators_withMarks h apart
  obtain ⟨dollar, mark⟩ := dollar_withMarks h
  have keeps := keeps_rules definition cs
  exact ⟨keeps.operators.trans same, keeps.numberable number, keeps.dollar dollar, keeps.mark mark⟩

/-- Every parameter mark in the code of a statement goes to the server as one parameter. These are
numbered from one, from left to right, and percent signs stay in their places among them. -/
theorem parameters_forServer {sql : List Char} (steady : IsSteady sql)
    (unmarked : ∀ t, ⟨.code, t⟩ ∈ lexemes sql → isUnmarked t)
    (unjoined : ∀ t, ⟨.code, t⟩ ∈ lexemes sql → isUnjoined t) :
    InCode (fun cs ds => '?' ∉ ds ∧
          ds.filter (fun c => c = '$' || c = '%') = (cs.filter isOperator).map serverOperator)
        (lexemes sql) (lexemes (forServer legacyRules sql)) ∧
      ofCode parameters (lexemes (forServer legacyRules sql)) =
        (List.range' 1 ((ofCode id (lexemes sql)).count '?')).map (Nat.toDigits 10) := by
  let f (code : List Char) := legacyRules.foldl (fun code r => r.apply (isDefinition sql) code) code
  have rules (t : List Char) (mem : ⟨.code, t⟩ ∈ lexemes sql) :=
    operators_rules (isDefinition sql) (unmarked t mem) (unjoined t mem)
  have adapted : lexemes (adapt legacyRules sql) = (lexemes sql).map (recode f) := steady.lexemes_adapt
  have code (t : List Char) (mem : ⟨.code, t⟩ ∈ lexemes (adapt legacyRules sql)) :
      t ≠ [] ∧ Numberable t ∧ '$' ∉ t ∧ '?' ∉ t := by
    obtain ⟨front, rest, eq⟩ := List.append_of_mem mem
    refine ⟨(code_of_lexemes eq).1, ?_⟩
    rw [adapted] at mem
    obtain ⟨⟨kind, s⟩, mem', eq'⟩ := List.mem_map.1 mem
    rw [recode] at eq'
    split at eq'
    · next same =>
      obtain rfl : kind = .code := same
      cases eq'
      exact (rules s mem').2
    · next other =>
      cases eq'
      exact absurd rfl other
  have scanned : lexemes (forServer legacyRules sql) = numbered 0 (lexemes (adapt legacyRules sql)) := by
    have recoded := recoded_numbered 0 fun t mem => ⟨(code t mem).1, (code t mem).2.2.1⟩
    have again := recoded.lexemes_eq
    rwa [text_numbered] at again
  constructor
  · rw [scanned, adapted]
    refine InCode.trans (R := fun cs ds => operators ds = cs.filter isOperator ∧ Numberable ds ∧
      '$' ∉ ds ∧ '?' ∉ ds) ?_ (inCode_map fun t mem => rules t mem) (inCode_numbered 0 _)
    rintro cs ds es ⟨same, number, dollar, mark⟩ ⟨k, rfl⟩
    refine ⟨(edit_numberCode k [] ds).not_mem ?_ mark, ?_⟩
    · rintro - old new - (⟨-, k, rfl⟩ | ⟨-, rfl⟩)
      · have digits := (digits_toDigits k).2
        rw [List.mem_cons, not_or]
        exact ⟨by decide, not_mem_of_all digits (by decide)⟩
      · decide
    · rw [(numbered_numberCode k number dollar).operators, same]
  · rw [scanned, parameters_numbered 0 fun t mem => ⟨(code t mem).2.1, (code t mem).2.2.1⟩, adapted]
    rw [Nat.zero_add, count_operators fun t mem => (rules t mem).1]

/-- Three parameters, of which one is a count, are numbered in order, and a percent sign and a literal are
left alone. -/
theorem parameters_forServer_select :
    IsSteady "SELECT a % 10, ? FROM t WHERE b REGEXP ? AND c = E'?\\'' LIMIT ?, 5".toList ∧
      ofCode parameters (lexemes (forServer legacyRules
          "SELECT a % 10, ? FROM t WHERE b REGEXP ? AND c = E'?\\'' LIMIT ?, 5".toList)) =
        [['1'], ['2'], ['3']] := by
  have steady : IsSteady "SELECT a % 10, ? FROM t WHERE b REGEXP ? AND c = E'?\\'' LIMIT ?, 5".toList :=
    .of_gaps (by decide +kernel)
  have code : ∀ l ∈ lexemes "SELECT a % 10, ? FROM t WHERE b REGEXP ? AND c = E'?\\'' LIMIT ?, 5".toList,
      l.kind = .code → isUnmarked l.text ∧ isUnjoined l.text := by decide +kernel
  have numbers := (parameters_forServer steady (fun t mem => (code _ mem rfl).1)
    fun t mem => (code _ mem rfl).2).2
  exact ⟨steady, numbers.trans (by decide +kernel)⟩

/-- A percent sign right in front of a parameter mark takes the mark's own percent sign for a doubled
one, and the parameter is lost. -/
theorem parameter_lost :
    (∀ t, ⟨.code, t⟩ ∈ lexemes "SELECT 10 %?".toList → isUnmarked t) ∧
      ofCode parameters (lexemes (forServer legacyRules "SELECT 10 %?".toList)) ≠
        (List.range' 1 ((ofCode id (lexemes "SELECT 10 %?".toList)).count '?')).map
          (Nat.toDigits 10) := by
  have code : ∀ l ∈ lexemes "SELECT 10 %?".toList, l.kind = .code → isUnmarked l.text := by
    decide +kernel
  exact ⟨fun t mem => code _ mem rfl, by decide +kernel⟩

end Tenancy.Sql
