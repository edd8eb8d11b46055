import Tenancy.Proofs.Sql.Pagination

/-!
# The rules keep which rows are selected

The rule for pages looks at the start of an operand and no further. Where that is all of it, the rows
that a statement selects are the same after the rules for legacy statements (`pages_adapt`): the second
count of two numbers, and -1 where it is a bound. `pages_adapt_fails` is what becomes of others.
-/

namespace Tenancy.Sql
open Text

variable {p : Pending} {before old cs ds skip take count : List Char} {ts us : List Token}

/-! ## What the rule reads -/

/-- Whether a condition holds of what follows `LIMIT`, wherever it stands. -/
def afterLimits (q : List Token → Bool) : List Token → Bool
  | [] => true
  | t :: ts => (t ≠ .limit || q ts) && afterLimits q ts

/-- Whether the rule for pairs reads operands whole: after a number, another one is all of the second
operand. There is no third one, and none starts with a percent sign. -/
def readsPair : List Token → Bool
  | .sign c :: _ => c ≠ '%'
  | .number v :: .comma :: .number w :: ts => !v.all isDecimal || w.all isDecimal && isEnd ts
  | .number _ :: .comma :: ts | .parameter :: .comma :: ts =>
    ts.head? ≠ some (.sign '%') && endOf 0 ts ≠ some .comma
  | _ => true

/-- Whether -1 is all of an operand that starts with it, and the only one. -/
def readsBound : List Token → Bool
  | .sign '-' :: .number w :: ts => w ≠ ['1'] || isEnd ts && ts.head? ≠ some .comma
  | _ => true

/-- A bound of -1 can be read if no more of an operand and no other one follows. -/
lemma readsBound_one : readsBound (.sign '-' :: .number ['1'] :: ts) ↔
    isEnd ts ∧ ts.head? ≠ some .comma := by
  rw [readsBound, decide_eq_false (by simp), Bool.false_or, Bool.and_eq_true, decide_eq_true_iff]

/-- An operand can be read unless it starts with -1. -/
lemma readsBound_or (ts : List Token) :
    readsBound ts ∨ ∃ us, ts = .sign '-' :: .number ['1'] :: us := by
  fun_cases readsBound ts with
  | case1 w ts =>
    by_cases one : w = ['1']
    · exact .inr ⟨ts, by rw [one]⟩
    · simp [one]
  | case2 => exact .inl rfl

/-- What is so behind every limit is so behind the last ones. -/
lemma afterLimits_of_append {q : List Token → Bool} (front : List Token)
    (h : afterLimits q (front ++ ts)) : afterLimits q ts := by
  induction front with
  | nil => exact h
  | cons t front ih => exact ih (Bool.and_eq_true_iff.1 h).2

/-- It is so behind each of them. -/
lemma afterLimits_limit {q : List Token → Bool} (front : List Token)
    (h : afterLimits q (front ++ .limit :: ts)) : q ts := by
  simpa using (Bool.and_eq_true_iff.1 (afterLimits_of_append front h)).1

/-! ## The tokens of a count -/

/-- The token of a count. -/
def Token.ofCount (count : List Char) : Token := if count = ['%', 's'] then .parameter else .number count

/-- A text is read to its end, where something may go on. -/
lemma tokensFrom_append (p : Pending) (front : List Char) : ∃ (ts : List Token) (q : Pending),
    (∀ before, p.Fits before → q.Fits (front.reverse ++ before)) ∧
      ∀ ds, tokensFrom p (front ++ ds) = ts ++ tokensFrom q ds := by
  induction front generalizing p with
  | nil => exact ⟨[], p, fun _ fits => fits, fun _ => rfl⟩
  | cons c front ih =>
    obtain ⟨ts, q, fits, reads⟩ := ih (p.read c).1
    refine ⟨(p.read c).2 ++ ts, q, fun before here => ?_, fun ds => ?_⟩
    · rw [List.reverse_cons, List.append_assoc]
      exact fits (c :: before) (p.fits_read here c)
    · rw [List.cons_append, tokensFrom, reads, List.append_assoc]

/-- Digits start a number, which is the whole word. -/
lemma tokensFrom_digits (some : count ≠ []) (digits : count.all isDecimal) (ds : List Char) :
    tokensFrom .none (count ++ ds) =
      .number (count ++ ds.takeWhile isWord) :: tokensFrom .none (ds.dropWhile isWord) := by
  have first : (count ++ ds.takeWhile isWord).head?.any isDecimal := by
    obtain ⟨c, count, rfl⟩ := List.exists_cons_of_ne_nil some
    exact (Bool.and_eq_true_iff.1 digits).1
  have word : (count ++ ds.takeWhile isWord).all isWord := by
    rw [List.all_append, Bool.and_eq_true]
    exact ⟨all_of_imp (fun _ => isWord_of_isDecimal) digits, List.all_takeWhile⟩
  have whole := tokensFrom_whole (by simp [some]) word (any_head_dropWhile isWord ds)
  rwa [List.append_assoc, List.takeWhile_append_dropWhile, Token.ofWord, if_pos first] at whole

/-- Digits that end are the token of a number. -/
lemma tokensFrom_number (some : count ≠ []) (digits : count.all isDecimal) (clear : Clear ds) :
    tokensFrom .none (count ++ ds) = .number count :: tokensFrom .none ds := by
  have stop : ds.takeWhile isWord = [] ∧ ds.dropWhile isWord = ds := by
    cases ds with
    | nil => exact ⟨rfl, rfl⟩
    | cons d ds =>
      have other : isWord d = false := clear
      simp [other]
  rw [tokensFrom_digits some digits, stop.1, stop.2, List.append_nil]

/-- A count is one token, unless it is no parameter mark. -/
lemma IsCount.tokens (h : IsCount count) :
    (∀ ds, Clear ds → tokensFrom .none (count ++ ds) = .ofCount count :: tokensFrom .none ds) ∧
        (count = ['%', 's'] ∨ count ≠ [] ∧ count.all isDecimal) ∨
      ∀ ds, ∃ ts, tokensFrom .none (count ++ ds) = .sign '%' :: ts := by
  rcases h with ⟨some, digits⟩ | mark
  · refine .inl ⟨fun ds clear => ?_, .inr ⟨some, digits⟩⟩
    have other : count ≠ ['%', 's'] := by
      rintro rfl
      exact absurd digits (by decide)
    rw [tokensFrom_number some digits clear, Token.ofCount, if_neg other]
  · simp only [parameterMarks, List.mem_cons, List.not_mem_nil, or_false] at mark
    rcases mark with rfl | rfl | rfl
    · exact .inl ⟨fun _ _ => rfl, .inl rfl⟩
    · exact .inr fun _ => ⟨_, rfl⟩
    · exact .inr fun _ => ⟨_, rfl⟩

/-- The first token of a count that is read. -/
lemma tokensFrom_count (h : count = ['%', 's'] ∨ count ≠ [] ∧ count.all isDecimal) (ds : List Char) :
    ∃ t ts, tokensFrom .none (count ++ ds) = t :: ts ∧ (t = .parameter ∨ ∃ w, t = .number w) := by
  rcases h with rfl | ⟨some, digits⟩
  · exact ⟨_, _, rfl, .inl rfl⟩
  · exact ⟨_, _, tokensFrom_digits some digits ds, .inr ⟨_, rfl⟩⟩

/-! ## The rule for pairs -/

/-- What a pair starts with. -/
lemma tokensFrom_limit {word gap : List Char} (fits : p.Fits before) (clear : Clear before)
    (reads : Reads "LIMIT" word) (isGap : IsGap gap) (ds : List Char) :
    tokensFrom p (word ++ (gap ++ ds)) = p.tokens ++ .limit :: tokensFrom .none ds := by
  rw [tokensFrom_reads fits clear reads (by decide),
    tokensFrom_whole reads.ne_nil reads.chars (isGap.clear_append ds), tokensFrom_blanks isGap.2,
    reads.ofWord_eq (by decide)]
  rfl

/-- No word goes on at blanks in front of a place where none does. -/
lemma clear_blanks {blanks : List Char} (blank : blanks.all isBlank) (clear : Clear ds) :
    Clear (blanks ++ ds) := by
  cases blanks with
  | nil => exact clear
  | cons c blanks => exact not_isWord_of_isBlank (Bool.and_eq_true_iff.1 blank).1

/-- A comma between blanks is a token. -/
lemma tokensFrom_comma {blanks blanks' : List Char} (blank : blanks.all isBlank)
    (blank' : blanks'.all isBlank) (ds : List Char) :
    tokensFrom .none (blanks ++ ',' :: (blanks' ++ ds)) = .comma :: tokensFrom .none ds := by
  have comma : tokensFrom .none (',' :: (blanks' ++ ds)) = .comma :: tokensFrom .none (blanks' ++ ds) := rfl
  rw [tokensFrom_blanks blank, comma, tokensFrom_blanks blank']

/-- The clauses that are put in. -/
lemma tokensFrom_clauses (fits : p.Fits before) (clear : Clear before)
    (reads : ∀ ds, Clear ds → tokensFrom .none (skip ++ ds) = .ofCount skip :: tokensFrom .none ds)
    (ds : List Char) :
    tokensFrom p ("OFFSET ".toList ++ skip ++ " LIMIT ".toList ++ ds) =
        p.tokens ++ .offset :: .ofCount skip :: .limit :: tokensFrom .none ds ∧
      tokensFrom p ("LIMIT ".toList ++ skip ++ " OFFSET ".toList ++ ds) =
        p.tokens ++ .limit :: .ofCount skip :: .offset :: tokensFrom .none ds := by
  have first := reads (" LIMIT ".toList ++ ds) rfl
  have second := reads (" OFFSET ".toList ++ ds) rfl
  have offset : tokensFrom p ("OFFSET ".toList ++ (skip ++ (" LIMIT ".toList ++ ds))) =
      p.tokens ++ .offset :: tokensFrom .none (skip ++ (" LIMIT ".toList ++ ds)) :=
    tokensFrom_of_clear (c := 'O') fits clear (fun _ => by decide) _
  have limit : tokensFrom p ("LIMIT ".toList ++ (skip ++ (" OFFSET ".toList ++ ds))) =
      p.tokens ++ .limit :: tokensFrom .none (skip ++ (" OFFSET ".toList ++ ds)) :=
    tokensFrom_of_clear (c := 'L') fits clear (fun _ => by decide) _
  rw [List.append_assoc, List.append_assoc, List.append_assoc, List.append_assoc, offset, limit, first,
    second]
  exact ⟨rfl, rfl⟩

/-- A pair of counts is a limit, the one count, a comma and the other. -/
lemma LimitPair.tokens (pair : LimitPair skip take old) (clear : Clear before) (fits : p.Fits before)
    (cs : List Char) : ∃ ds, Clear ds ∧
      tokensFrom p (old ++ cs) = p.tokens ++ .limit :: tokensFrom .none (skip ++ ds) ∧
      tokensFrom .none ds = .comma :: tokensFrom .none (take ++ cs) := by
  obtain ⟨word, gap, blanks, blanks', reads, isGap, -, blank, blank', -, rfl⟩ := pair
  refine ⟨blanks ++ ',' :: (blanks' ++ (take ++ cs)), clear_blanks blank rfl, ?_,
    tokensFrom_comma blank blank' _⟩
  have start := tokensFrom_limit fits clear reads isGap
    (skip ++ (blanks ++ ',' :: (blanks' ++ (take ++ cs))))
  simpa using start

/-- Both parts of a pair are counts, and the second is its end. -/
lemma LimitPair.counts (pair : LimitPair skip take old) :
    IsCount skip ∧ IsCount take ∧ ∃ front, old = front ++ take := by
  obtain ⟨word, gap, blanks, blanks', -, -, count, -, -, count', rfl⟩ := pair
  exact ⟨count, count', word ++ (gap ++ (skip ++ (blanks ++ ',' :: blanks'))), by simp⟩

/-- A pair whose first count is a parameter or whose second one is. -/
lemma turns_ordered (before : List Char) {t : Token} (count : t = .parameter ∨ ∃ w, t = .number w)
    (second : take = ['%', 's'] ∨ take ≠ [] ∧ take.all isDecimal) {front : List Token}
    (other : (∃ w, t = .number w) → take = ['%', 's'])
    (sound : afterLimits readsPair (front ++ .limit :: t :: .comma :: (tokensFrom .none (take ++ cs) ++ ts)))
    (tail : ∀ q : Pending, q.Fits (take.reverse ++ before) → afterLimits readsPair (tokensFrom q cs ++ ts) →
      Turns (tokensFrom q cs ++ ts) (tokensFrom q ds ++ us)) :
    Turns (front ++ .limit :: t :: .comma :: (tokensFrom .none (take ++ cs) ++ ts))
      (front ++ .offset :: t :: .limit :: (tokensFrom .none (take ++ ds) ++ us)) := by
  obtain ⟨first, more, eq, value⟩ := tokensFrom_count second cs
  obtain ⟨pre, q, fits, reads⟩ := tokensFrom_append .none take
  have third : endOf 0 (tokensFrom .none (take ++ cs) ++ ts) ≠ some .comma := by
    have here := afterLimits_limit front sound
    rcases count with rfl | number
    · exact (by simpa [readsPair] using here : _ ∧ _).2
    · obtain rfl := other number
      obtain ⟨w, rfl⟩ := number
      have mark : tokensFrom .none (['%', 's'] ++ cs) = .parameter :: tokensFrom .none cs := rfl
      rw [mark, List.cons_append] at here ⊢
      exact (by simpa [readsPair] using here : endOf 0 _ ≠ _)
  have sign (c : Char) : (tokensFrom .none (take ++ cs) ++ ts).head? ≠ some (.sign c) := by
    rw [eq]
    rcases value with rfl | ⟨w, rfl⟩ <;> rintro ⟨⟩
  have suffix : afterLimits readsPair (pre ++ (tokensFrom q cs ++ ts)) := by
    rw [reads, List.append_assoc] at sound
    exact afterLimits_of_append (front ++ [.limit, t, .comma]) (by simpa using sound)
  have after := (tail q (fits _ trivial) (afterLimits_of_append pre suffix)).append pre
  refine .append front (.ordered count third sign ?_)
  rwa [reads, reads, List.append_assoc, List.append_assoc]

/-- The second of two numbers is all of its operand. -/
lemma clear_of_readsPair (digits : skip.all isDecimal) (some : take ≠ []) (digits' : take.all isDecimal)
    (full : cs.head?.any isDecimal = false)
    (whole : readsPair (.number skip :: .comma :: (tokensFrom .none (take ++ cs) ++ ts))) :
    Clear cs ∧ isEnd (tokensFrom .none cs ++ ts) := by
  rw [tokensFrom_digits some digits', List.cons_append, readsPair, digits, Bool.not_true, Bool.false_or,
    Bool.and_eq_true, List.all_append, Bool.and_eq_true] at whole
  obtain ⟨⟨-, word⟩, ends⟩ := whole
  have clear : Clear cs := by
    cases cs with
    | nil => rfl
    | cons c cs =>
      rw [List.head?_cons, Option.any_some] at full
      cases head : isWord c with
      | false => exact head
      | true =>
        rw [List.takeWhile_cons_of_pos head] at word
        rw [(Bool.and_eq_true_iff.1 word).1] at full
        cases full
  have stop : cs.dropWhile isWord = cs := by
    cases cs with
    | nil => rfl
    | cons c cs =>
      have other : isWord c = false := clear
      exact List.dropWhile_cons_of_neg (by simp [other])
  rw [stop] at ends
  exact ⟨clear, ends⟩

/-- The rule for pairs turns clauses, where it reads their operands whole. -/
lemma turns_pairs (e : Edit FullPages [] before cs ds) (last : afterLimits readsPair ts → Turns ts us)
    (fits : p.Fits before) (sound : afterLimits readsPair (tokensFrom p cs ++ ts)) :
    Turns (tokensFrom p cs ++ ts) (tokensFrom p ds ++ us) := by
  refine e.tokens (R := fun ts us => afterLimits readsPair ts → Turns ts us) ?_ last ?_ p fits sound
  · intro t ts us h sound
    exact .keep t (h (Bool.and_eq_true_iff.1 sound).2)
  rintro before old new cs ds ⟨skip, take, clear, pair, rfl, full⟩ e tail p fits sound
  obtain ⟨count, count', ⟨front, eq⟩⟩ := pair.counts
  obtain ⟨rest, clear', start, comma⟩ := pair.tokens clear fits cs
  rw [start, List.append_assoc, List.cons_append] at sound ⊢
  rcases count.tokens with ⟨reads, value⟩ | sign
  swap
  · obtain ⟨more, eq⟩ := sign rest
    have whole := afterLimits_limit p.tokens sound
    rw [eq] at whole
    exact absurd whole (by simp [readsPair])
  rw [reads rest clear', comma] at sound ⊢
  have whole := afterLimits_limit p.tokens sound
  rcases count'.tokens with ⟨reads', value'⟩ | sign
  swap
  · obtain ⟨more, eq⟩ := sign cs
    rw [eq, Token.ofCount] at whole
    split at whole <;> exact absurd whole (by simp [readsPair])
  by_cases parameter : skip = ['%', 's'] ∨ take = ['%', 's']
  · have second (w : List Char) (number : Token.ofCount skip = .number w) : take = ['%', 's'] := by
      refine parameter.resolve_left fun eq => ?_
      rw [Token.ofCount, if_pos eq] at number
      cases number
    have value : Token.ofCount skip = .parameter ∨ ∃ w, Token.ofCount skip = .number w := by
      rw [Token.ofCount]
      split
      · exact .inl rfl
      · exact .inr ⟨_, rfl⟩
    have turned := turns_ordered (front.reverse ++ before) value value'
      (fun named => named.elim second) sound fun q fits => tail q (by simpa [eq] using fits)
    rw [clauses, if_pos parameter, List.append_assoc, (tokensFrom_clauses fits clear reads _).1]
    simpa using turned
  · rw [not_or] at parameter
    obtain ⟨some, digits⟩ := value.resolve_left parameter.1
    obtain ⟨some', digits'⟩ := value'.resolve_left parameter.2
    have number {count : List Char} (other : count ≠ ['%', 's']) : Token.ofCount count = .number count :=
      if_neg other
    rw [number parameter.1] at sound whole ⊢
    obtain ⟨clear₁, ends⟩ := clear_of_readsPair digits some' digits' (by simpa using full digits') whole
    have clear₂ : Clear ds := by
      refine e.clear (fun before old new after change => ?_) clear₁
      obtain ⟨_, _, _, pair, _, _⟩ := change
      exact LimitPair.head pair
    rw [reads' cs clear₁, number parameter.2] at sound ⊢
    have after := tail .none trivial (afterLimits_of_append
      (p.tokens ++ [.limit, .number skip, .comma, .number take]) (by simpa using sound))
    rw [clauses, if_neg (by simp [parameter]), List.append_assoc,
      (tokensFrom_clauses fits clear reads' _).2, number parameter.2, reads ds clear₂, number parameter.1]
    simpa using Turns.append p.tokens (.swapped ends after)

/-! ## The rule for -1 -/

/-- The rule for -1 turns clauses, where it is all of its operand. -/
lemma turns_bounds (e : Edit NoLimit [] before cs ds) (last : afterLimits readsBound ts → Turns ts us)
    (fits : p.Fits before) (sound : afterLimits readsBound (tokensFrom p cs ++ ts)) :
    Turns (tokensFrom p cs ++ ts) (tokensFrom p ds ++ us) := by
  refine e.tokens (R := fun ts us => afterLimits readsBound ts → Turns ts us) ?_ last ?_ p fits sound
  · intro t ts us h sound
    exact .keep t (h (Bool.and_eq_true_iff.1 sound).2)
  rintro before old new cs ds ⟨word, gap, clear, reads, isGap, ends, rfl, rfl⟩ e tail p fits sound
  have clear₁ : Clear cs := clear_of_append ends
  have clear₂ : Clear ds := by
    refine e.clear (fun _ _ _ _ ⟨word, gap, _, reads, _, _, eq, _⟩ => ?_) clear₁
    obtain ⟨c, word, rfl⟩ := List.exists_cons_of_ne_nil reads.ne_nil
    rw [eq]
    exact reads.any_head
  have minus : tokensFrom .none ('-' :: '1' :: cs) = .sign '-' :: .number ['1'] :: tokensFrom .none cs := by
    have one : tokensFrom .none (['1'] ++ cs) = .number ['1'] :: tokensFrom .none cs :=
      tokensFrom_number (by simp) (by decide) clear₁
    exact congrArg (Token.sign '-' :: ·) one
  have start : tokensFrom p (word ++ (gap ++ ['-', '1']) ++ cs) =
      p.tokens ++ .limit :: .sign '-' :: .number ['1'] :: tokensFrom .none cs := by
    have limit := tokensFrom_limit fits clear reads isGap ('-' :: '1' :: cs)
    rw [minus] at limit
    simpa using limit
  have put : tokensFrom p ("LIMIT ALL".toList ++ ds) =
      p.tokens ++ .limit :: .all :: tokensFrom .none ds := by
    have whole := tokensFrom_whole (w := "ALL".toList) (by decide) (by decide) clear₂
    have limit := tokensFrom_of_clear (c := 'L') fits clear (fun _ => by decide) ("IMIT ALL".toList ++ ds)
    refine limit.trans (congrArg (p.tokens ++ ·) ?_)
    exact congrArg (Token.limit :: ·) whole
  rw [start, List.append_assoc] at sound ⊢
  obtain ⟨stop, comma⟩ := readsBound_one.1 (afterLimits_limit p.tokens sound)
  have after := tail .none trivial (afterLimits_of_append
    (p.tokens ++ [.limit, .sign '-', .number ['1']]) (by simpa using sound))
  rw [put, List.append_assoc]
  exact .append p.tokens (.unbounded stop comma after)

namespace Turns

/-- Where clauses were turned, -1 is all of its operand as before. -/
lemma readsBound (h : Turns ts us) (sound : readsBound ts) : Sql.readsBound us := by
  rcases readsBound_or us with here | ⟨us, rfl⟩
  · exact here
  · cases h with
    | keep _ h =>
      cases h with
      | keep _ h =>
        obtain ⟨ends, comma⟩ := readsBound_one.1 sound
        exact readsBound_one.2 ⟨h.isEnd ends, h.head_ne (by decide) comma⟩

/-- A turn of clauses leaves every bound readable. -/
lemma afterLimits (h : Turns ts us) (sound : afterLimits Sql.readsBound ts) :
    Sql.afterLimits Sql.readsBound us := by
  have tail {t : Token} {ts : List Token} (h : Sql.afterLimits Sql.readsBound (t :: ts)) :
      Sql.afterLimits Sql.readsBound ts := (Bool.and_eq_true_iff.1 h).2
  have other {t : Token} {ts : List Token} (clause : t ≠ .limit)
      (h : Sql.afterLimits Sql.readsBound ts) : Sql.afterLimits Sql.readsBound (t :: ts) := by
    rw [Sql.afterLimits, h, decide_eq_true clause]
    rfl
  have limit {ts : List Token} (here : Sql.readsBound ts) (h : Sql.afterLimits Sql.readsBound ts) :
      Sql.afterLimits Sql.readsBound (.limit :: ts) := by
    rw [Sql.afterLimits, h, here]
    rfl
  induction h with
  | nil => rfl
  | @keep ts us t h ih =>
    by_cases clause : t = .limit
    · subst clause
      exact limit (h.readsBound (afterLimits_limit [] sound)) (ih (tail sound))
    · exact other clause (ih (tail sound))
  | @ordered t ts us count third sign h ih =>
    have first : t ≠ .limit := by
      rcases count with rfl | ⟨w, rfl⟩ <;> nofun
    refine other nofun (other first (limit ?_ (ih (tail (tail (tail sound))))))
    rcases readsBound_or us with here | ⟨us, rfl⟩
    · exact here
    · exact absurd rfl (h.head_ne (by decide) (sign '-'))
  | swapped ends h ih =>
    exact limit rfl (other nofun (other nofun (other nofun (ih (tail (tail (tail (tail sound))))))))
  | unbounded ends comma h ih => exact limit rfl (other nofun (ih (tail (tail (tail sound)))))

end Turns

/-! ## Whole statements -/

/-- One change of code after the other is one change. -/
lemma recode_recode (f g : List Char → List Char) (ls : List Lexeme) :
    (ls.map (recode f)).map (recode g) = ls.map (recode fun code => g (f code)) := by
  rw [List.map_map]
  refine List.map_congr_left fun l _ => ?_
  by_cases code : l.kind = .code
  · simp [recode, code]
  · simp [recode, code]

/-- A change that leaves the tokens of all code leaves those of the statement. -/
lemma tokens_recode {f : List Char → List Char} {ls : List Lexeme}
    (h : ∀ t, ⟨.code, t⟩ ∈ ls → tokensFrom .none (f t) = tokensFrom .none t) :
    tokens (ls.map (recode f)) = tokens ls := by
  rw [tokens, tokens, List.flatMap_map]
  refine List.flatMap_congr fun l mem => ?_
  obtain ⟨kind, t⟩ := l
  cases kind with
  | code => exact h t mem
  | comment | literal | quotedName | dollarQuoted => rfl

/-- What is turned in every stretch of code is turned in the whole. -/
lemma turns_recode {f : List Char → List Char} {q : List Token → Bool} (ls : List Lexeme)
    (h : ∀ t ts us, (afterLimits q ts → Turns ts us) → afterLimits q (tokensFrom .none t ++ ts) →
      Turns (tokensFrom .none t ++ ts) (tokensFrom .none (f t) ++ us))
    (sound : afterLimits q (tokens ls)) : Turns (tokens ls) (tokens (ls.map (recode f))) := by
  induction ls with
  | nil => exact .nil
  | cons l ls ih =>
    obtain ⟨kind, t⟩ := l
    cases kind with
    | code => exact h t _ _ ih sound
    | comment => exact ih sound
    | literal | quotedName | dollarQuoted => exact .keep .quoted (ih (Bool.and_eq_true_iff.1 sound).2)

/-- The lexemes of a statement, with what the rules make of code. -/
def adapted (sql : List Char) : List Lexeme :=
  (lexemes sql).map (recode fun code => legacyRules.foldl (fun code r => r.apply (isDefinition sql) code) code)

/-- The rules for patterns and types leave the tokens as they are, and those for pages turn them. -/
lemma pages_recode (definition : Bool) {ls : List Lexeme} (apart : ∀ t, ⟨.code, t⟩ ∈ ls → isApart t)
    (pairs : afterLimits readsPair (tokens ls)) (bounds : afterLimits readsBound (tokens ls)) :
    pages (ls.map (recode fun code => legacyRules.foldl (fun code r => r.apply definition code) code)) =
      pages ls := by
  let marked := ls.map (recode withMarks)
  have marks : tokens marked = tokens ls :=
    tokens_recode fun t mem => tokensFrom_withMarks [] (apart t mem) trivial nofun
  let matched := (marked.map (recode (substitute findNotRegexp none))).map
    (recode (substitute (findWord "REGEXP" "~") none))
  have patterns : tokens matched = tokens ls := by
    rw [← marks]
    refine (tokens_recode fun t _ => ?_).trans (tokens_recode fun t _ => ?_)
    · exact .symm (tokensFrom_regexp (p := .none) (edit_substitute (finds_findWord (by decide) (by decide)) [] t)
        trivial)
    · exact .symm (tokensFrom_notRegexp (p := .none) (edit_substitute finds_findNotRegexp [] t) trivial)
  let paired := matched.map (recode (substitute findLimitPair none))
  have first : Turns (tokens ls) (tokens paired) := by
    rw [← patterns] at pairs ⊢
    refine turns_recode _ (fun t ts us last sound => ?_) pairs
    exact turns_pairs (edit_substitute finds_findLimitPair_full [] t) last trivial sound
  let bounded := paired.map (recode (substitute findNoLimit none))
  have second : Turns (tokens paired) (tokens bounded) := by
    refine turns_recode _ (fun t ts us last sound => ?_) (first.afterLimits bounds)
    exact turns_bounds (edit_substitute finds_findNoLimit [] t) last trivial sound
  have types : tokens (bounded.map (recode (bytesRule.apply definition))) = tokens bounded := by
    refine tokens_recode fun t _ => ?_
    cases definition with
    | false => rfl
    | true =>
      exact .symm (tokensFrom_bytes (p := .none) (edit_substitute (finds_findWord (by decide) (by decide)) [] t)
        trivial)
  have whole : ls.map (recode fun code => legacyRules.foldl (fun code r => r.apply definition code) code) =
      bounded.map (recode (bytesRule.apply definition)) := by
    simp only [bounded, paired, matched, marked, recode_recode]
    rfl
  rw [whole, pages, pages, types, first.pages_eq, second.pages_eq]

/-- The rules for legacy statements keep which rows a statement selects, where the rule for pages reads
its operands whole: every clause skips what the same expression says and takes what the same expression
says, with the same parameters, or all where it took all. -/
theorem pages_adapt {sql : List Char} (apart : ∀ t, ⟨.code, t⟩ ∈ lexemes sql → isApart t)
    (pairs : afterLimits readsPair (tokens (lexemes sql)))
    (bounds : afterLimits readsBound (tokens (lexemes sql))) :
    text (adapted sql) = adapt legacyRules sql ∧
      (IsSteady sql → lexemes (adapt legacyRules sql) = adapted sql) ∧
      pages (adapted sql) = pages (lexemes sql) :=
  ⟨text_recode _ sql, fun steady => steady.lexemes_adapt, pages_recode _ apart pairs bounds⟩

/-- A bound of -1 in a subquery and a pair of which one count is a parameter give the same pages as they were
meant. -/
theorem pages_adapt_select :
    adapt legacyRules "SELECT a, (SELECT b FROM u LIMIT -1) FROM t WHERE c = ? LIMIT ?, 5 * (? + 1)".toList =
        "SELECT a, (SELECT b FROM u LIMIT ALL) FROM t WHERE c = %s OFFSET %s LIMIT 5 * (%s + 1)".toList ∧
      pages (adapted "SELECT a, (SELECT b FROM u LIMIT -1) FROM t WHERE c = ? LIMIT ?, 5 * (? + 1)".toList) =
        [⟨[], [none]⟩, ⟨[[.parameter 1]], [some [.token (.number ['5']), .token (.sign '*'), .token .opened,
          .parameter 2, .token (.sign '+'), .token (.number ['1']), .token .closed]]⟩] := by
  have apart : ∀ l ∈ lexemes
      "SELECT a, (SELECT b FROM u LIMIT -1) FROM t WHERE c = ? LIMIT ?, 5 * (? + 1)".toList,
      l.kind = .code → isApart l.text := by decide +kernel
  obtain ⟨spells, -, same⟩ := pages_adapt (fun t mem => apart _ mem rfl) (by decide +kernel)
    (by decide +kernel)
  exact ⟨spells.symm.trans (by decide +kernel), same.trans (by decide +kernel)⟩

/-- The rule reads the start of an operand alone: what the second of two numbers goes on with is then part
of how many rows are skipped, and what -1 goes on with is part of a bound that is none. -/
theorem pages_adapt_fails :
    adapt legacyRules "SELECT a FROM t LIMIT 10, 20 + 5".toList =
        "SELECT a FROM t LIMIT 20 OFFSET 10 + 5".toList ∧
      pages (lexemes (adapt legacyRules "SELECT a FROM t LIMIT 10, 20 + 5".toList)) ≠
        pages (lexemes "SELECT a FROM t LIMIT 10, 20 + 5".toList) ∧
      adapt legacyRules "SELECT a FROM t LIMIT -1 + 5".toList =
        "SELECT a FROM t LIMIT ALL + 5".toList ∧
      pages (lexemes (adapt legacyRules "SELECT a FROM t LIMIT -1 + 5".toList)) ≠
        pages (lexemes "SELECT a FROM t LIMIT -1 + 5".toList) := by
  decide +kernel

end Tenancy.Sql
