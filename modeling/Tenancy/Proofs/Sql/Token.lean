import Tenancy.Proofs.Sql.Numbering

/-!
# Tokens of a statement

`tokens` reads a statement as far as its clauses for pages go: the words `LIMIT`, `OFFSET` and `ALL`,
numbers, parameters, commas, brackets and signs; any other word or mark that ends an expression is like
any other.
It reads character by character, so what an edit does to a text can be followed in its tokens
(`Edit.tokens`). The rules for parameters, patterns and types change none of them:
`tokensFrom_withMarks`, `tokensFrom_notRegexp`, `tokensFrom_regexp` and `tokensFrom_bytes`.
-/

namespace Tenancy.Sql
open Text

/-- What a statement is made of, as far as its clauses for pages go. -/
inductive Token where
  | limit
  | offset
  | comma
  | opened
  | closed
  | parameter
  | number (w : List Char)
  | all
  | sign (c : Char)
  | quoted
  | other
  deriving DecidableEq, Repr

/-- Whether a word is another in some case. -/
def isFolded (w : List Char) (word : String) : Bool := w.map foldChar == word.toList.map foldChar

/-- The token of a word. What starts with a digit is a number. -/
def Token.ofWord (w : List Char) : Token :=
  if w.head?.any isDecimal then .number w
  else if isFolded w "LIMIT" then .limit
  else if isFolded w "OFFSET" then .offset
  else if isFolded w "ALL" then .all
  else .other

/-- The token of a mark. An expression ends with the statement and at an operator for patterns. -/
def Token.ofMark (c : Char) : Token :=
  if c = ',' then .comma
  else if c = '(' then .opened
  else if c = ')' then .closed
  else if [';', '!', '~'].contains c then .other
  else .sign c

/-- What was read of a token that may go on: a word, given last character first, or a percent sign. -/
inductive Pending where
  | none
  | word (w : List Char)
  | percent
  deriving DecidableEq

namespace Pending

/-- The token that ends here. -/
def tokens : Pending → List Token
  | none => []
  | word w => [.ofWord w.reverse]
  | percent => [.sign '%']

/-- What comes of a token that goes on with a character, and the tokens that are complete then. -/
def goesOn? : Pending → Char → Option (Pending × List Token)
  | none, _ => .none
  | word w, c => if isWord c then some (word (c :: w), []) else .none
  | percent, c =>
    if c = 's' then some (none, [.parameter])
    else if c = '%' then some (none, [.sign '%'])
    else .none

/-- What a character begins. -/
def start (c : Char) : Pending × List Token :=
  if isWord c then (word [c], [])
  else if c = '%' then (percent, [])
  else if c = '?' then (none, [.parameter])
  else if isBlank c then (none, [])
  else (none, [.ofMark c])

/-- Reads a character: what may go on now, and the tokens that are complete. -/
def read (p : Pending) (c : Char) : Pending × List Token :=
  (p.goesOn? c).getD ((start c).1, p.tokens ++ (start c).2)

/-- Whether this is how a text may end, which is given last character first. -/
def Fits (p : Pending) (before : List Char) : Prop :=
  match p with
  | none => True
  | word _ => before.head?.any isWord
  | percent => before.head? = some '%'

end Pending

/-- The tokens of code, after the beginning of a token. -/
def tokensFrom (p : Pending) : List Char → List Token
  | [] => p.tokens
  | c :: cs => (p.read c).2 ++ tokensFrom (p.read c).1 cs

/-- The tokens of a statement, given by its lexemes. -/
def tokens (ls : List Lexeme) : List Token :=
  ls.flatMap fun l =>
    match l.kind with
    | .code => tokensFrom .none l.text
    | .comment => []
    | .literal | .quotedName | .dollarQuoted => [.quoted]

/-! ## Reading on -/

variable {p : Pending} {before cs ds : List Char} {c : Char}

/-- What is pending fits the text with one more character. -/
lemma Pending.fits_read (h : p.Fits before) (c : Char) : (p.read c).1.Fits (c :: before) := by
  have started : (Pending.start c).1.Fits (c :: before) := by
    rw [Pending.start]
    split
    · next word => exact word
    split
    · next percent => exact congrArg some percent
    split
    · trivial
    split <;> trivial
  cases p with
  | none => exact started
  | word w =>
    by_cases word : isWord c
    · simp [Pending.read, Pending.goesOn?, word, Pending.Fits]
    · simpa [Pending.read, Pending.goesOn?, word] using started
  | percent =>
    by_cases letter : c = 's'
    · simp [Pending.read, Pending.goesOn?, letter, Pending.Fits]
    by_cases percent : c = '%'
    · simp [Pending.read, Pending.goesOn?, percent, Pending.Fits]
    · simpa [Pending.read, Pending.goesOn?, letter, percent] using started

/-- Where a token does not go on, it ends. -/
lemma tokensFrom_cons (h : p.goesOn? c = none) (cs : List Char) :
    tokensFrom p (c :: cs) = p.tokens ++ tokensFrom .none (c :: cs) := by
  rw [tokensFrom, tokensFrom, Pending.read, h, Option.getD_none, List.append_assoc]
  rfl

/-- A word goes on through characters of words. -/
lemma tokensFrom_word {w : List Char} (h : cs.all isWord) (ds : List Char) :
    tokensFrom (.word w) (cs ++ ds) = tokensFrom (.word (cs.reverse ++ w)) ds := by
  induction cs generalizing w with
  | nil => rfl
  | cons c cs ih =>
    obtain ⟨head, tail⟩ := Bool.and_eq_true_iff.1 h
    have read : (Pending.word w).read c = (.word (c :: w), []) := by
      simp [Pending.read, Pending.goesOn?, head]
    rw [List.cons_append, tokensFrom, read, ih tail]
    simp

/-- A character of words starts a word. -/
lemma tokensFrom_starts {w : List Char} (some : w ≠ []) (h : w.all isWord) (ds : List Char) :
    tokensFrom .none (w ++ ds) = tokensFrom (.word w.reverse) ds := by
  obtain ⟨c, w, rfl⟩ := List.exists_cons_of_ne_nil some
  obtain ⟨head, tail⟩ := Bool.and_eq_true_iff.1 h
  have read : Pending.none.read c = (.word [c], []) := by
    simp [Pending.read, Pending.goesOn?, Pending.start, head, Pending.tokens]
  rw [List.cons_append, tokensFrom, read, tokensFrom_word tail]
  simp

/-- A word ends where none goes on. -/
lemma tokensFrom_clear {w : List Char} (h : Clear ds) :
    tokensFrom (.word w) ds = .ofWord w.reverse :: tokensFrom .none ds := by
  cases ds with
  | nil => rfl
  | cons d ds =>
    have other : isWord d = false := h
    exact tokensFrom_cons (by simp [Pending.goesOn?, other]) ds

/-- A whole word is one token. -/
lemma tokensFrom_whole {w : List Char} (some : w ≠ []) (h : w.all isWord) (clear : Clear ds) :
    tokensFrom .none (w ++ ds) = .ofWord w :: tokensFrom .none ds := by
  rw [tokensFrom_starts some h, tokensFrom_clear clear, List.reverse_reverse]

/-- Blanks are no tokens. -/
lemma tokensFrom_blanks {blanks : List Char} (h : blanks.all isBlank) (ds : List Char) :
    tokensFrom .none (blanks ++ ds) = tokensFrom .none ds := by
  induction blanks with
  | nil => rfl
  | cons c blanks ih =>
    obtain ⟨head, tail⟩ := Bool.and_eq_true_iff.1 h
    have read : Pending.none.read c = (.none, []) := by
      have percent : c ≠ '%' := by
        rintro rfl
        exact absurd head (by decide)
      have mark : c ≠ '?' := by
        rintro rfl
        exact absurd head (by decide)
      simp [Pending.read, Pending.goesOn?, Pending.start, not_isWord_of_isBlank head, percent, mark,
        head, Pending.tokens]
    rw [List.cons_append, tokensFrom, read, ih tail]
    rfl

/-! ## Edits -/

/-- What an edit does to tokens it does to those of the whole text, if it keeps what is in front. -/
lemma Edit.tokens {P : Change} {R : List Token → List Token → Prop} {rest : List Char}
    (keep : ∀ t ts us, R ts us → R (t :: ts) (t :: us)) {ts us : List Token} (last : R ts us)
    (put : ∀ before old new cs ds, P before old new (cs ++ rest) →
      Edit P rest (old.reverse ++ before) cs ds →
      (∀ q : Pending, q.Fits (old.reverse ++ before) → R (tokensFrom q cs ++ ts) (tokensFrom q ds ++ us)) →
      ∀ p : Pending, p.Fits before →
        R (tokensFrom p (old ++ cs) ++ ts) (tokensFrom p (new ++ ds) ++ us))
    (e : Edit P rest before cs ds) (p : Pending) (fits : p.Fits before) :
    R (tokensFrom p cs ++ ts) (tokensFrom p ds ++ us) := by
  have keeps (front : List Token) {ts us : List Token} (h : R ts us) : R (front ++ ts) (front ++ us) := by
    induction front with
    | nil => exact h
    | cons t front ih => exact keep t _ _ ih
  induction e generalizing p with
  | nil => exact keeps p.tokens last
  | @keep before cs ds c _ ih =>
    have tail := ih _ (p.fits_read fits c)
    rw [tokensFrom, tokensFrom, List.append_assoc, List.append_assoc]
    exact keeps _ tail
  | @put before old new cs ds _ place e ih => exact put before old new cs ds place e ih p fits

/-- Where a word starts, what may have gone on ends. -/
lemma tokensFrom_of_clear {c : Char} (fits : p.Fits before) (clear : Clear before)
    (other : p = .percent → c ≠ 's' ∧ c ≠ '%') (cs : List Char) :
    tokensFrom p (c :: cs) = p.tokens ++ tokensFrom .none (c :: cs) := by
  cases p with
  | none => rfl
  | word w =>
    rw [Pending.Fits, show before.head?.any isWord = false from clear] at fits
    cases fits
  | percent =>
    obtain ⟨letter, percent⟩ := other rfl
    exact tokensFrom_cons (by simp [Pending.goesOn?, letter, percent]) cs

/-- Behind a text where no word goes on, what is pending comes first and then a word. -/
lemma tokensFrom_reads {word : String} {old : List Char} (fits : p.Fits before) (clear : Clear before)
    (reads : Reads word old) (start : word.toList.head?.map foldChar ≠ some (foldChar 's'))
    (ds : List Char) : tokensFrom p (old ++ ds) = p.tokens ++ tokensFrom .none (old ++ ds) := by
  have first : old.head?.map foldChar = word.toList.head?.map foldChar := by
    rw [← List.head?_map, ← List.head?_map, reads.folds]
  have chars := reads.chars
  obtain ⟨c, old, rfl⟩ := List.exists_cons_of_ne_nil reads.ne_nil
  refine tokensFrom_of_clear fits clear (fun _ => ⟨?_, ?_⟩) _
  · rintro rfl
    exact start first.symm
  · rintro rfl
    exact absurd (Bool.and_eq_true_iff.1 chars).1 (by decide)

/-! ## Words that are no clauses -/

/-- A character that folds to a letter is no digit. -/
lemma not_isDecimal_of_fold {c : Char} (h : (foldChar c).isLower) : isDecimal c = false := by
  have ascii : isAscii (foldChar c) := by
    refine isAscii_of_isNameChar ?_
    rw [isNameChar, Bool.or_eq_true, isAlphanum_iff]
    exact .inl (.inr (.inl h))
  rw [Bool.eq_false_iff]
  intro digit
  rcases isAscii_or_of_fold ascii with asciic | rfl | rfl
  · exact isAscii_induction (fun c => (foldChar c).isLower → isDecimal c → False) (by decide) asciic
      h digit
  · exact absurd digit (by decide)
  · exact absurd digit (by decide)

/-- A word is the token that it is read as. -/
lemma Reads.ofWord_eq {word : String} {old : List Char} (h : Reads word old)
    (letter : word.toList.head?.any fun c => (foldChar c).isLower) :
    Token.ofWord old = Token.ofWord word.toList := by
  have digit {w : List Char} (folds : w.map foldChar = word.toList.map foldChar) :
      w.head?.any isDecimal = false := by
    have first := congrArg List.head? folds
    rw [List.head?_map, List.head?_map] at first
    cases head : w.head? with
    | none => rfl
    | some c =>
      cases head' : word.toList.head? with
      | none =>
        rw [head, head'] at first
        cases first
      | some d =>
        rw [head, head', Option.map_some, Option.map_some, Option.some_inj] at first
        rw [head'] at letter
        exact not_isDecimal_of_fold (first ▸ letter)
  have same (other : String) : isFolded old other = isFolded word.toList other := by
    rw [isFolded, isFolded, h.folds]
  rw [Token.ofWord, Token.ofWord, same, same, same, digit h.folds, digit rfl]
  rfl

/-! ## The rules that change no clause -/

/-- Whether no percent sign stands right in front of a parameter mark. -/
def isApart : List Char → Bool := avoids fun c d => c = '%' && d = some '?'

/-- A text with its parameters marked has the same tokens, if percent signs stand apart. -/
lemma tokensFrom_withMarks (before : List Char) (h : isApart cs) (first : p.Fits before)
    (apart : before.head? = some '%' → cs.head? ≠ some '?') :
    tokensFrom p (withMarks cs) = tokensFrom p cs := by
  induction cs generalizing p before with
  | nil =>
    rw [withMarks, replaceText]
    rfl
  | cons c cs ih =>
    obtain ⟨here, tail⟩ := Bool.and_eq_true_iff.1 h
    rw [withMarks_cons]
    by_cases mark : c = '?'
    · subst mark
      have ends : ∀ d, isWord d = false → p.goesOn? d = none := by
        intro d other
        cases p with
        | none => rfl
        | word w => simp [Pending.goesOn?, other]
        | percent => exact absurd rfl (apart first)
      have later : tokensFrom .none (withMarks cs) = tokensFrom .none cs := ih [] tail trivial (by rintro ⟨⟩)
      rw [if_pos rfl, tokensFrom_cons (ends '?' (by decide)), tokensFrom_cons (ends '%' (by decide))]
      exact congrArg (p.tokens ++ Token.parameter :: ·) later
    · rw [if_neg mark, tokensFrom, tokensFrom, ih (c :: before) tail (p.fits_read first c)]
      rintro ⟨⟩
      simpa using here

/-- An edit at words that does not put anything in where no word stands keeps what is clear. -/
lemma Edit.clear {P : Change} {rest : List Char} (e : Edit P rest before cs ds)
    (words : ∀ before old new after, P before old new after → old.head?.any isWord) (h : Clear cs) :
    Clear ds := by
  cases e with
  | nil => exact h
  | keep c _ => exact h
  | @put _ old new cs ds some place _ =>
    have word := words _ _ _ _ place
    obtain ⟨c, old, rfl⟩ := List.exists_cons_of_ne_nil some
    rw [Clear, List.cons_append, List.head?_cons] at h
    rw [List.head?_cons, h] at word
    cases word

/-- No word goes on at the first of two texts where none does at both. -/
lemma clear_of_append {cs rest : List Char} (h : Clear (cs ++ rest)) : Clear cs := by
  cases cs with
  | nil => rfl
  | cons c cs => exact h

/-- The operators for patterns end what is read and are no part of a clause. -/
lemma tokensFrom_operator {m : Char} (h : m = '~' ∨ m = '!') (p : Pending) (ds : List Char) :
    tokensFrom p (m :: ds) = p.tokens ++ .other :: tokensFrom .none ds := by
  obtain ⟨other, letter, percent, mark⟩ : isWord m = false ∧ m ≠ 's' ∧ m ≠ '%' ∧
      Pending.none.read m = (.none, [.other]) := by
    rcases h with rfl | rfl
    · decide
    · decide
  have ends : p.goesOn? m = none := by
    cases p with
    | none => rfl
    | word w => simp [Pending.goesOn?, other]
    | percent => simp [Pending.goesOn?, letter, percent]
  rw [tokensFrom_cons ends, tokensFrom, mark]
  rfl

variable {rest : List Char}

/-- A match that was replaced is the same token. -/
lemma tokensFrom_regexp (e : Edit (OneWord "REGEXP" "~") rest before cs ds) (fits : p.Fits before) :
    tokensFrom p cs = tokensFrom p ds := by
  suffices same : tokensFrom p cs ++ [] = tokensFrom p ds ++ [] by simpa using same
  refine e.tokens (R := Eq) (fun t _ _ => congrArg (t :: ·)) rfl ?_ p fits
  rintro before old new cs ds ⟨clear, reads, ends, rfl⟩ - tail p fits
  have after : tokensFrom .none cs = tokensFrom .none ds := by simpa using tail .none trivial
  rw [tokensFrom_reads fits clear reads (by decide),
    tokensFrom_whole reads.ne_nil reads.chars (clear_of_append ends), reads.ofWord_eq (by decide), after]
  exact congrArg (· ++ []) (tokensFrom_operator (.inl rfl) p ds).symm

/-- So is a negated match. -/
lemma tokensFrom_notRegexp (e : Edit NotRegexp rest before cs ds) (fits : p.Fits before) :
    tokensFrom p cs = tokensFrom p ds := by
  suffices same : tokensFrom p cs ++ [] = tokensFrom p ds ++ [] by simpa using same
  refine e.tokens (R := Eq) (fun t _ _ => congrArg (t :: ·)) rfl ?_ p fits
  rintro before old new cs ds ⟨no, gap, word, clear, readsNo, isGap, reads, ends, rfl, rfl⟩ - tail p fits
  have after : tokensFrom .none cs = tokensFrom .none ds := by simpa using tail .none trivial
  have apart : Clear (gap ++ (word ++ cs)) := isGap.clear_append _
  rw [List.append_assoc, List.append_assoc, tokensFrom_reads fits clear readsNo (by decide),
    tokensFrom_whole readsNo.ne_nil readsNo.chars apart, tokensFrom_blanks isGap.2,
    tokensFrom_whole reads.ne_nil reads.chars (clear_of_append ends), readsNo.ofWord_eq (by decide),
    reads.ofWord_eq (by decide), after]
  have put := tokensFrom_operator (.inr rfl) p ('~' :: ds)
  rw [tokensFrom_operator (.inl rfl)] at put
  exact congrArg (· ++ []) put.symm

/-- The type of bytes is no word of a clause in either dialect. -/
lemma tokensFrom_bytes (e : Edit (OneWord "BLOB" "BYTEA") rest before cs ds) (fits : p.Fits before) :
    tokensFrom p cs = tokensFrom p ds := by
  suffices same : tokensFrom p cs ++ [] = tokensFrom p ds ++ [] by simpa using same
  refine e.tokens (R := Eq) (fun t _ _ => congrArg (t :: ·)) rfl ?_ p fits
  rintro before old new cs ds ⟨clear, reads, ends, rfl⟩ e tail p fits
  have after : tokensFrom .none cs = tokensFrom .none ds := by simpa using tail .none trivial
  have clear' : Clear ds :=
    e.clear (fun _ _ _ _ place => place.2.1.any_head) (clear_of_append ends)
  have put := tokensFrom_of_clear (c := 'B') fits clear (fun _ => by decide) ("YTEA".toList ++ ds)
  have whole := tokensFrom_whole (w := "BYTEA".toList) (by decide) (by decide) clear'
  rw [tokensFrom_reads fits clear reads (by decide),
    tokensFrom_whole reads.ne_nil reads.chars (clear_of_append ends), reads.ofWord_eq (by decide), after]
  refine congrArg (· ++ []) (.symm (put.trans ?_))
  exact congrArg (p.tokens ++ ·) whole

end Tenancy.Sql
