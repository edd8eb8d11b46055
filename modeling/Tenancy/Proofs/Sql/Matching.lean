import Tenancy.Proofs.Sql.Passes

/-!
# The operator for patterns is translated

A word `REGEXP` in a stretch of code becomes `~`, and `!~` together with a `NOT` in front of it: the code on both
sides is translated by itself (`translate_regexp`, `translate_notRegexp`), because a match of two words goes
across the start of a word only if the second one starts there (`NotRegexp.across`) and no other pass touches an
operator (`FindsAll.substitute_operator`). No word `REGEXP` is left over (`not_isFolded_translate`).
-/

namespace Tenancy.Sql
open Text

/-- A word that stands by itself between two texts. -/
structure WordAt (word : String) (code front w back : List Char) : Prop where
  whole : code = front ++ (w ++ back)
  reads : Reads word w
  starts : front.getLast?.any isWord = false
  ends : Clear back

/-- Whether a text is another with a word `NOT` and blanks behind it. -/
def EndsNot (lead front : List Char) : Prop :=
  ∃ no gap, front = lead ++ (no ++ gap) ∧ Reads "NOT" no ∧ IsGap gap ∧ lead.getLast?.any isWord = false

variable {x y w s cs lead front back : List Char}

/-! ## Borders -/

/-- What does not start at the start of a word reaches beyond it. -/
lemma prefix_of_clear {tail : List Char} (chars : w.all isWord) (eq : w ++ y = lead ++ tail)
    (filled : lead ≠ []) (starts : lead.getLast?.any isWord = false) : w <+: lead := by
  obtain ⟨more, rfl, -⟩ | ⟨more, rfl, -⟩ := List.append_eq_append_iff.1 eq
  · exact List.prefix_append w more
  · obtain ⟨init, c, rfl⟩ := (List.eq_nil_or_concat lead).resolve_left filled
    have word : isWord c := List.all_eq_true.1 chars c (by simp)
    have gap : isWord c = false := by simpa using starts
    rw [word] at gap
    cases gap

/-- A match of two words that goes across the start of a word has the second one there. -/
lemma NotRegexp.across {old new after : List Char} (starts : x.getLast?.any isWord = false)
    (filled : w ≠ []) (chars : w.all isWord) (ends : Clear y)
    (eq : x ++ (w ++ y) = lead ++ (old ++ after)) (place : NotRegexp lead.reverse old new after) :
    lead ++ old <+: x ∨ x <+: lead ∨ Reads "REGEXP" w ∧ EndsNot lead x := by
  obtain ⟨no, gap, word, clear, readsNo, isGap, reads, ends', rfl, -⟩ := place
  have clear : lead.getLast?.any isWord = false := by rwa [Clear, List.head?_reverse] at clear
  rw [List.append_assoc, List.append_assoc] at eq
  obtain ⟨more, rfl, -⟩ | ⟨u, rfl, eq₁⟩ := List.append_eq_append_iff.1 eq
  · exact .inr (.inl (List.prefix_append x more))
  by_cases none : u = []
  · subst none
    exact .inr (.inl ⟨[], by simp⟩)
  obtain ⟨u, rfl, eq₂⟩ | ⟨no', rfl, -⟩ := List.append_eq_append_iff.1 eq₁
  · have second (eq : w ++ y = word ++ after) (whole : gap = u) :
        Reads "REGEXP" w ∧ EndsNot lead (lead ++ (no ++ u)) := by
      have same : word = w := eq_of_words reads.chars chars ends ends' eq
      exact ⟨same ▸ reads, no, gap, by rw [whole], readsNo, isGap, clear⟩
    obtain ⟨v, rfl, eq₃⟩ | ⟨gap', rfl, eq₃⟩ := List.append_eq_append_iff.1 eq₂
    · obtain ⟨more, rfl, -⟩ | ⟨word', rfl, eq₄⟩ := List.append_eq_append_iff.1 eq₃
      · exact .inl ⟨more, by simp⟩
      · by_cases none : v = []
        · subst none
          exact .inr (.inr (second eq₄ (by simp)))
        · have ends : (lead ++ (no ++ gap) ++ v).getLast?.any isWord = false := by simpa using starts
          exact (reads.not_across none ends).elim
    · cases gap' with
      | nil => exact .inr (.inr (second eq₃ (by simp)))
      | cons c gap' =>
        -- A blank does not start a word.
        obtain ⟨d, w, rfl⟩ := List.exists_cons_of_ne_nil filled
        obtain ⟨rfl, -⟩ := List.cons.inj eq₃
        have blank : isBlank d := List.all_eq_true.1 isGap.2 d (by simp)
        have word : isWord d := (Bool.and_eq_true_iff.1 chars).1
        rw [not_isWord_of_isBlank blank] at word
        cases word
  · exact (readsNo.not_across none starts).elim

/-! ## The passes for the operator -/

/-- No word is both of the words of a negated match. -/
lemma Reads.not_both (no : Reads "NOT" w) (regexp : Reads "REGEXP" w) : False := by
  have folds := no.folds.symm.trans regexp.folds
  exact absurd (congrArg List.length folds) (by decide)

/-- A word `REGEXP` that is not negated is left to the next pass. -/
lemma substitute_regexp_alone (reads : Reads "REGEXP" w) (starts : x.getLast?.any isWord = false)
    (ends : Clear y) (alone : ∀ lead, ¬ EndsNot lead x) :
    substitute findNotRegexp none (x ++ (w ++ y)) =
      substitute findNotRegexp none x ++ (w ++ substitute findNotRegexp none y) := by
  refine findsAll_findNotRegexp.substitute_spares reads.ne_nil ?_ (.inl starts) (.inr ends)
  intro lead old new after eq place
  obtain within | ⟨more, rfl⟩ | ⟨-, negated⟩ :=
    place.across starts reads.ne_nil reads.chars ends eq
  · exact .inl within
  · right
    rw [List.append_assoc] at eq
    have eq := List.append_cancel_left eq
    refine (List.prefix_append_right_inj x).2 ?_
    obtain ⟨no, gap, word, clear, readsNo, isGap, -, -, rfl, -⟩ := place
    by_cases none : more = []
    · subst none
      have same : no = w :=
        eq_of_words readsNo.chars reads.chars ends (isGap.clear_append (word ++ after)) (by simpa using eq)
      exact ((same ▸ readsNo : Reads "NOT" w).not_both reads).elim
    · refine prefix_of_clear reads.chars eq none ?_
      rwa [Clear, List.head?_reverse, List.getLast?_append_of_ne_nil _ none] at clear
  · exact absurd negated (alone lead)

/-- A word `REGEXP` that is negated becomes an operator together with the negation. -/
lemma substitute_regexp_negated {no gap : List Char} (readsNo : Reads "NOT" no) (isGap : IsGap gap)
    (reads : Reads "REGEXP" w) (starts : x.getLast?.any isWord = false) (ends : Clear y) :
    substitute findNotRegexp none (x ++ (no ++ (gap ++ (w ++ y)))) =
      substitute findNotRegexp none x ++ ("!~".toList ++ substitute findNotRegexp none y) := by
  have place : NotRegexp [] (no ++ (gap ++ w)) "!~".toList y :=
    ⟨no, gap, w, rfl, readsNo, isGap, reads, ends, rfl, rfl⟩
  have split : substitute findNotRegexp none (x ++ (no ++ (gap ++ (w ++ y)))) =
      substitute findNotRegexp none x ++ substitute findNotRegexp none (no ++ (gap ++ (w ++ y))) := by
    refine findsAll_findNotRegexp.substitute_append (.inl starts) fun lead old new after eq place => ?_
    obtain within | beyond | ⟨regexp, -⟩ :=
      place.across starts readsNo.ne_nil readsNo.chars (isGap.clear_append (w ++ y)) eq
    · exact .inl within
    · exact .inr beyond
    · exact (readsNo.not_both regexp).elim
  have put := substitute_put (findsAll_findNotRegexp.ne_nil place) (findsAll_findNotRegexp.found place)
  have later : substitute findNotRegexp (no ++ (gap ++ w)).reverse.head? y = substitute findNotRegexp none y :=
    findsAll_findNotRegexp.substitute_from (.inr ends)
  rw [List.head?_reverse] at later
  rw [later] at put
  rw [split]
  refine congrArg _ (Eq.trans ?_ put)
  simp only [List.append_assoc]
  rfl

/-- A word `REGEXP` that is left becomes an operator. -/
lemma substitute_regexp (reads : Reads "REGEXP" w) (starts : x.getLast?.any isWord = false) (ends : Clear y) :
    substitute (findWord "REGEXP" "~") none (x ++ (w ++ y)) =
      substitute (findWord "REGEXP" "~") none x ++
        ("~".toList ++ substitute (findWord "REGEXP" "~") none y) := by
  have swapped : swapWord "REGEXP" "~" w = "~".toList := if_pos (isFolded_iff.2 reads.folds)
  simp only [substitute_findWord (show "REGEXP".toList ≠ [] by decide) (by decide)]
  rw [mapWords_append (.inl starts), mapWords_word reads.ne_nil reads.chars ends, swapped]

/-! ## The passes after it -/

/-- The operators for patterns. -/
def IsOperator (s : List Char) : Prop := s = "~".toList ∨ s = "!~".toList

/-- What has no sign of an operator in it leaves operators where they are. -/
lemma FindsAll.substitute_operator {find : Option Char → List Char → Option Match} {P : Change}
    (all : FindsAll find P)
    (foreign : ∀ before old new after, P before old new after → '!' ∉ old ∧ '~' ∉ old) (operator : IsOperator s) (x y : List Char) :
    substitute find none (x ++ (s ++ y)) = substitute find none x ++ (s ++ substitute find none y) := by
  obtain ⟨filled, front, back, signs⟩ :
      s ≠ [] ∧ Apart x s ∧ Apart s y ∧ s.all fun c => c = '!' || c = '~' := by
    obtain rfl | rfl := operator
    · exact ⟨by decide, .inr (by decide), .inl (by decide), by decide⟩
    · exact ⟨by decide, .inr (by decide), .inl (by decide), by decide⟩
  refine all.substitute_spares filled (all.spares_of_not_mem filled ?_) front back
  intro before old new after place c mem
  obtain ⟨negation, operator⟩ := foreign _ _ _ _ place
  have sign : c = '!' ∨ c = '~' := by simpa using List.all_eq_true.1 signs c mem
  obtain rfl | rfl := sign
  · exact negation
  · exact operator

/-- No operator is in what a word is put in the place of. -/
lemma OneWord.foreign {word new : String} {before old new' after : List Char}
    (place : OneWord word new before old new' after) : '!' ∉ old ∧ '~' ∉ old :=
  ⟨not_mem_of_all place.2.1.chars (by decide), not_mem_of_all place.2.1.chars (by decide)⟩

/-- None is in a pair of counts. -/
lemma FullPages.foreign {before old new after : List Char} (place : FullPages before old new after) :
    '!' ∉ old ∧ '~' ∉ old := by
  obtain ⟨skip, take, -, pair, -⟩ := place
  have other {m : Char} (check : !isWord m && !isBlank m && m ≠ '%' && m ≠ ',') : m ∉ old := by
    simp only [Bool.and_eq_true, Bool.not_eq_true', decide_eq_true_iff] at check
    obtain ⟨⟨⟨word, blank⟩, percent⟩, comma⟩ := check
    refine not_mem_of_all (q := fun c => c ≠ m) (pair.all ?_ ?_ ?_) (by simp)
    · intro c hc
      refine decide_eq_true ?_
      rintro rfl
      rw [word] at hc
      cases hc
    · intro c hc
      refine decide_eq_true ?_
      rintro rfl
      rw [blank] at hc
      cases hc
    · exact ⟨decide_eq_true percent.symm, decide_eq_true comma.symm⟩
  exact ⟨other (by decide), other (by decide)⟩

/-- None is in a bound that is none. -/
lemma NoLimit.foreign {before old new after : List Char} (place : NoLimit before old new after) :
    '!' ∉ old ∧ '~' ∉ old := by
  obtain ⟨word, gap, -, reads, isGap, -, rfl, -⟩ := place
  simp only [List.mem_append, not_or]
  exact ⟨⟨not_mem_of_all reads.chars (by decide), not_mem_of_all isGap.2 (by decide), by decide⟩,
    not_mem_of_all reads.chars (by decide), not_mem_of_all isGap.2 (by decide), by decide⟩

/-- Operators stay through the passes for clauses and types. -/
lemma replaceAll_operator (operator : IsOperator s) (definition : Bool) (x y : List Char) :
    replaceAll (clausePatterns definition) (x ++ (s ++ y)) =
      replaceAll (clausePatterns definition) x ++ (s ++ replaceAll (clausePatterns definition) y) := by
  refine replaceAll_append (fun find mem => ?_) x y
  simp only [clausePatterns, List.mem_cons] at mem
  obtain rfl | rfl | mem := mem
  · exact findsAll_findLimitPair.substitute_operator (fun _ _ _ _ => FullPages.foreign) operator
  · exact findsAll_findNoLimit.substitute_operator (fun _ _ _ _ => NoLimit.foreign) operator
  · cases definition with
    | false => cases mem
    | true =>
      obtain rfl := List.mem_singleton.1 mem
      exact (findsAll_findWord (by decide) (by decide)).substitute_operator (fun _ _ _ _ => OneWord.foreign)
        operator

/-! ## The operator in a stretch of code -/

/-- Whether a text ends in a word `NOT` and blanks, behind what does not run into it when parameters are
marked. -/
def Negates (lead front : List Char) : Prop := EndsNot lead front ∧ lead.getLast? ≠ some '?'

/-- A marked text ends in a `NOT` where the text does. -/
lemma EndsNot.of_withMarks (ends : EndsNot lead (withMarks front)) :
    ∃ lead', withMarks lead' = lead ∧ Negates lead' front := by
  obtain ⟨no, gap, eq, reads, isGap, starts⟩ := ends
  have start : (no ++ gap).head? ≠ some 's' := reads.head_ne (by decide) gap
  have none : '%' ∉ no ++ gap := by
    rw [List.mem_append, not_or]
    exact ⟨reads.not_mem (by decide), not_mem_of_all isGap.2 (by decide)⟩
  obtain ⟨lead', rest, rfl, rfl, marked⟩ := split_of_withMarks eq (.inr start)
  obtain rfl := eq_of_withMarks marked none
  have other := getLast_ne_of_withMarks starts
  rw [getLast_withMarks other] at starts
  exact ⟨lead', rfl, ⟨no, gap, rfl, reads, isGap, starts⟩, other⟩

/-- A word `REGEXP` that is negated, and does not stand right behind a parameter, becomes `!~` together with the
negation. -/
theorem translate_notRegexp (definition : Bool) {code : List Char} (word : WordAt "REGEXP" code front w back)
    (negated : Negates lead front) :
    translate definition code =
      translate definition lead ++ ("!~".toList ++ translate definition back) := by
  obtain ⟨rfl, reads, -, ends⟩ := word
  obtain ⟨⟨no, gap, rfl, readsNo, isGap, starts⟩, other⟩ := negated
  have unmarked : withMarks (no ++ (gap ++ w)) = no ++ (gap ++ w) := by
    refine withMarks_of_not_mem ?_
    simp only [List.mem_append, not_or]
    exact ⟨readsNo.not_mem (by decide), not_mem_of_all isGap.2 (by decide), reads.not_mem (by decide)⟩
  have marked : withMarks (lead ++ (no ++ gap) ++ (w ++ back)) =
      withMarks lead ++ (no ++ (gap ++ (w ++ withMarks back))) := by
    have regrouped : lead ++ (no ++ gap) ++ (w ++ back) = lead ++ ((no ++ (gap ++ w)) ++ back) := by simp
    rw [regrouped, withMarks_append, withMarks_append, unmarked]
    simp
  have clear : (withMarks lead).getLast?.any isWord = false := by rwa [getLast_withMarks other]
  have operator : IsOperator "!~".toList := .inr rfl
  have matched := (findsAll_findWord (show "REGEXP".toList ≠ [] by decide) (by decide)).substitute_operator
    (fun _ _ _ _ (place : OneWord "REGEXP" "~" _ _ _ _) => place.foreign) operator
  simp only [translate_eq, patterns, replaceAll_cons]
  rw [marked, substitute_regexp_negated readsNo isGap reads clear (clear_withMarks ends), matched,
    replaceAll_operator operator]

/-- A word `REGEXP` that is not negated, and does not stand right behind a parameter, becomes `~`. -/
theorem translate_regexp (definition : Bool) {code : List Char} (word : WordAt "REGEXP" code front w back)
    (other : front.getLast? ≠ some '?') (alone : ∀ lead, ¬ Negates lead front) :
    translate definition code =
      translate definition front ++ ("~".toList ++ translate definition back) := by
  obtain ⟨rfl, reads, starts, ends⟩ := word
  have marked : withMarks (front ++ (w ++ back)) = withMarks front ++ (w ++ withMarks back) := by
    rw [withMarks_append, withMarks_append, withMarks_of_not_mem (reads.not_mem (by decide))]
  have starts : (withMarks front).getLast?.any isWord = false := by rwa [getLast_withMarks other]
  have ends : Clear (withMarks back) := clear_withMarks ends
  have alone : ∀ lead, ¬ EndsNot lead (withMarks front) := by
    intro lead negated
    obtain ⟨lead', -, negated⟩ := negated.of_withMarks
    exact alone lead' negated
  have starts' : (substitute findNotRegexp none (withMarks front)).getLast?.any isWord = false := by
    rwa [findsAll_findNotRegexp.getLast_substitute starts]
  have ends' : Clear (substitute findNotRegexp none (withMarks back)) := by
    rwa [Clear, findsAll_findNotRegexp.head_substitute ends]
  simp only [translate_eq, patterns, replaceAll_cons]
  rw [marked, substitute_regexp_alone reads starts ends alone, substitute_regexp reads starts' ends',
    replaceAll_operator (.inl rfl)]

/-! ## No word is left over -/

/-- A count ends in a character of words. -/
lemma IsCount.any_getLast {count : List Char} (h : IsCount count) : count.getLast?.any isWord := by
  obtain ⟨c, last, word, -⟩ := h.getLast
  rw [last]
  exact word

/-- The two clauses end in one too. -/
lemma clauses_flow {skip take : List Char} (countSkip : IsCount skip) (countTake : IsCount take) :
    clauses skip take ≠ [] ∧ (clauses skip take).getLast?.any isWord := by
  constructor
  · intro none
    have start := head_clauses skip take
    rw [none] at start
    obtain start | start := start
    · cases start
    · cases start
  · rw [getLast_clauses countSkip countTake]
    split
    · exact countTake.any_getLast
    · exact countSkip.any_getLast

/-- The letter that starts the word is in no clause. -/
lemma not_mem_clauses {skip take : List Char} (countSkip : IsCount skip) (countTake : IsCount take) {c : Char}
    (letter : foldChar c = 'r') : c ∉ clauses skip take := by
  have all : (clauses skip take).all fun c => foldChar c ≠ 'r' := by
    refine all_clauses countSkip countTake (fun d digit => decide_eq_true ?_) (by decide) (by decide)
    intro folds
    have lower : (foldChar d).isLower := folds ▸ rfl
    rw [not_isDecimal_of_fold lower] at digit
    cases digit
  exact not_mem_of_all all (by simp [letter])

/-- The passes for clauses and types put no word `REGEXP` together. -/
lemma mem_words_of_clausePatterns {definition : Bool} {find : Option Char → List Char → Option Match}
    (mem : find ∈ clausePatterns definition) {code u : List Char} (word : isFolded u "REGEXP")
    (memu : u ∈ words (substitute find none code)) : u ∈ words code := by
  have folds := isFolded_iff.1 word
  cases u with
  | nil => cases folds
  | cons c v =>
    have letter : foldChar c = 'r' := (List.cons.inj folds).1
    have other {new : String} (none : new.toList.all fun d => foldChar d ≠ 'r') : c ∉ new.toList :=
      not_mem_of_all none (by simp [letter])
    simp only [clausePatterns, List.mem_cons] at mem
    obtain rfl | rfl | mem := mem
    · refine (edit_substitute finds_findLimitPair_full [] code).mem_words ?_ ?_ ?_ memu
      · rintro _ _ _ _ ⟨_, _, clear, -⟩
        exact clear
      · rintro _ _ _ _ ⟨_, _, -, ⟨_, _, _, _, -, -, countSkip, -, -, countTake, -⟩, rfl, -⟩
        have flow := clauses_flow countSkip countTake
        exact ⟨flow.1, fun _ => flow.2⟩
      · rintro _ _ _ _ ⟨_, _, -, ⟨_, _, _, _, -, -, countSkip, -, -, countTake, -⟩, rfl, -⟩
        exact not_mem_clauses countSkip countTake letter
    · refine (edit_substitute finds_findNoLimit [] code).mem_words ?_ ?_ ?_ memu
      · rintro _ _ _ _ ⟨_, _, clear, -⟩
        exact clear
      · rintro _ _ _ _ ⟨_, _, -, -, -, -, -, rfl⟩
        exact ⟨by decide, fun _ => by decide⟩
      · rintro _ _ _ _ ⟨_, _, -, -, -, -, -, rfl⟩
        exact other (by decide)
    · cases definition with
      | false => cases mem
      | true =>
        obtain rfl := List.mem_singleton.1 mem
        refine (edit_substitute (finds_findWord (by decide) (by decide)) [] code).mem_words ?_ ?_ ?_ memu
        · rintro _ _ _ _ ⟨clear, -⟩
          exact clear
        · rintro _ _ _ _ ⟨-, -, -, rfl⟩
          exact ⟨by decide, fun _ => by decide⟩
        · rintro _ _ _ _ ⟨-, -, -, rfl⟩
          exact other (by decide)

/-- No word `REGEXP` is left over in a stretch of code. -/
theorem not_isFolded_translate (definition : Bool) {code u : List Char}
    (mem : u ∈ words (translate definition code)) : ¬ isFolded u "REGEXP" := by
  rw [translate_eq, patterns, replaceAll_cons, replaceAll_cons] at mem
  intro word
  have early : ∀ finds, (∀ find ∈ finds, find ∈ clausePatterns definition) → ∀ code,
      u ∈ words (replaceAll finds code) → u ∈ words code := by
    intro finds
    induction finds with
    | nil => exact fun _ _ mem => mem
    | cons find finds ih =>
      intro among code mem
      refine mem_words_of_clausePatterns (among find List.mem_cons_self) word ?_
      exact ih (fun other later => among other (List.mem_cons_of_mem find later)) _ mem
  have mem := early _ (fun _ mem => mem) _ mem
  exact not_isFolded_of_substitute (by decide) (by decide) (by decide) mem word

/-! ## The operator in a statement -/

/-- The operator for patterns is translated wherever it stands by itself and not right behind a parameter: a
word `REGEXP` becomes `~`, or `!~` together with a `NOT` in front of it with blanks between them, and what
stands on both sides is translated by itself. No word `REGEXP` is left over in the code. -/
theorem matching_adapt (sql : List Char) :
    (text ((lexemes sql).map (recode (translate (isDefinition sql)))) = adapt legacyRules sql ∧
      (IsSteady sql → lexemes (adapt legacyRules sql) =
        (lexemes sql).map (recode (translate (isDefinition sql))))) ∧
    ∀ code, ⟨.code, code⟩ ∈ lexemes sql →
      (∀ front w back, WordAt "REGEXP" code front w back → front.getLast? ≠ some '?' →
        (∀ lead, Negates lead front → translate (isDefinition sql) code =
          translate (isDefinition sql) lead ++ ("!~".toList ++ translate (isDefinition sql) back)) ∧
        ((∀ lead, ¬ Negates lead front) → translate (isDefinition sql) code =
          translate (isDefinition sql) front ++ ("~".toList ++ translate (isDefinition sql) back))) ∧
      ∀ u ∈ words (translate (isDefinition sql) code), ¬ isFolded u "REGEXP" := by
  refine ⟨⟨text_recode _ sql, fun steady => steady.lexemes_adapt⟩, fun code _ => ⟨?_, ?_⟩⟩
  · intro front w back word other
    exact ⟨fun lead => translate_notRegexp _ word, translate_regexp _ word other⟩
  · exact fun u => not_isFolded_translate _

/-- Where no word is a `NOT`, nothing is negated. -/
lemma not_negates (none : ∀ u ∈ words front, ¬ isFolded u "NOT") : ¬ Negates lead front := by
  rintro ⟨⟨no, gap, rfl, reads, isGap, starts⟩, -⟩
  exact none no (mem_words starts reads.ne_nil reads.chars isGap.clear.1) (isFolded_iff.2 reads.folds)

/-- A match and a negated one become operators, in any case of their letters. -/
theorem matching_adapt_select :
    IsSteady "SELECT a Regexp b, 'c' NOT REGEXP ?".toList ∧
      adapt legacyRules "SELECT a Regexp b, 'c' NOT REGEXP ?".toList = "SELECT a ~ b, 'c' !~ %s".toList ∧
      translate false "SELECT a Regexp b, ".toList =
        translate false "SELECT a ".toList ++ ("~".toList ++ translate false " b, ".toList) ∧
      translate false " NOT REGEXP ?".toList =
        translate false " ".toList ++ ("!~".toList ++ translate false " ?".toList) := by
  have cut : lexemes "SELECT a Regexp b, 'c' NOT REGEXP ?".toList =
      [⟨.code, "SELECT a Regexp b, ".toList⟩, ⟨.literal, "'c'".toList⟩, ⟨.code, " NOT REGEXP ?".toList⟩] := by
    decide +kernel
  have query : isDefinition "SELECT a Regexp b, 'c' NOT REGEXP ?".toList = false := by decide +kernel
  have reads : Reads "REGEXP" "Regexp".toList ∧ Reads "REGEXP" "REGEXP".toList ∧ Reads "NOT" "NOT".toList :=
    ⟨.of_folds (by decide) (by decide) (by decide), .of_folds (by decide) (by decide) rfl,
      .of_folds (by decide) (by decide) rfl⟩
  have matching := matching_adapt "SELECT a Regexp b, 'c' NOT REGEXP ?".toList
  rw [query, cut] at matching
  refine ⟨.of_gaps (by decide +kernel), matching.1.1.symm.trans (by decide +kernel), ?_, ?_⟩
  · have word : WordAt "REGEXP" "SELECT a Regexp b, ".toList "SELECT a ".toList "Regexp".toList " b, ".toList :=
      ⟨by decide, reads.1, by decide, by decide⟩
    exact ((matching.2 _ (by simp)).1 _ _ _ word (by decide)).2 fun _ => not_negates (by decide +kernel)
  · have word : WordAt "REGEXP" " NOT REGEXP ?".toList " NOT ".toList "REGEXP".toList " ?".toList :=
      ⟨by decide, reads.2.1, by decide, by decide⟩
    have negated : Negates " ".toList " NOT ".toList :=
      ⟨⟨"NOT".toList, " ".toList, by decide, reads.2.2, ⟨by decide, by decide⟩, by decide⟩, by decide⟩
    exact ((matching.2 _ (by simp)).1 _ _ _ word (by decide)).1 _ negated

/-- The mark of a parameter runs into a word right behind it, and a comment between `NOT` and `REGEXP` keeps
them apart. -/
theorem matching_adapt_fails :
    lexemes "SELECT ?REGEXP a".toList = [⟨.code, "SELECT ?REGEXP a".toList⟩] ∧
      "REGEXP".toList ∈ words "SELECT ?REGEXP a".toList ∧
      adapt legacyRules "SELECT ?REGEXP a".toList = "SELECT %sREGEXP a".toList ∧
      adapt legacyRules "SELECT a NOT /* b */ REGEXP c".toList = "SELECT a NOT /* b */ ~ c".toList := by
  decide +kernel

end Tenancy.Sql
