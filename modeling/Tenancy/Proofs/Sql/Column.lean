import Tenancy.Proofs.Sql.Passes

/-!
# Names of columns are kept

An identifier that stands by itself in code stands there after the rules for legacy statements have acted, in
definitions and in other statements alike (`translate_identifier`): matches start with a word of the rules, and
the identifier has none (`Opens.prefix_of_free`), and none that starts in front of it reaches into it
(`Misses`), unless it stands where a `LIMIT` has its counts. A definition differs from another statement in the
words `BLOB` alone, whatever they stand for (`translate_definition`).
-/

namespace Tenancy.Sql
open Text

/-- Whether a character can stand in an identifier. -/
def isIdentifierChar (c : Char) : Bool := !isAscii c || isNameChar c || c = '$'

/-- Whether a text is an identifier as it is written without quotes. -/
structure IsIdentifier (cs : List Char) : Prop where
  filled : cs ≠ []
  chars : cs.all isIdentifierChar
  start : cs.head?.any (fun c => c.isDigit || isBlank c) = false

/-- Whether a text has none of the words in it that rules look for. -/
def IsFree (cs : List Char) : Prop := ∀ w ∈ words cs, ∀ r ∈ ruleWords, ¬ isFolded w r

/-- Whether a character can stand among the counts of a `LIMIT`. -/
def isCountChar (c : Char) : Bool := isBlank c || isDecimal c || ['%', 's', 'S', 'ſ', ',', '?'].contains c

/-- Whether a text ends in a word `LIMIT` with nothing but counts behind it. -/
def AfterLimit (front : List Char) : Prop :=
  ∃ lead word counts, front = lead ++ (word ++ counts) ∧ Reads "LIMIT" word ∧ counts.all isCountChar ∧
    Clear counts ∧ lead.getLast?.any isWord = false

/-- Whether texts on both sides of an identifier do not go on with it. -/
structure Borders (front back : List Char) : Prop where
  front : front.getLast?.any isIdentifierChar = false
  back : back.head?.any isIdentifierChar = false

/-- An identifier that stands by itself between two texts, neither right behind a parameter nor where a `LIMIT`
has its counts as if it were one. -/
structure Stretch (code front c back : List Char) : Prop where
  whole : code = front ++ (c ++ back)
  borders : Borders front back
  apart : front.getLast? ≠ some '?'
  outside : c.head?.any isCountChar → ¬ AfterLimit front

/-! ## Characters of identifiers -/

variable {x y c cs front back lead : List Char}

/-- A character of words can stand in an identifier. -/
lemma isIdentifierChar_of_isWord {d : Char} (word : isWord d) : isIdentifierChar d := by
  cases ascii : isAscii d with
  | false => simp [isIdentifierChar, ascii]
  | true =>
    have name : isNameChar d := by rwa [← isWord_of_isAscii ascii]
    simp [isIdentifierChar, name]

/-- Where no identifier goes on, no word does. -/
lemma any_isWord {o : Option Char} (none : o.any isIdentifierChar = false) : o.any isWord = false := by
  cases o with
  | none => rfl
  | some d =>
    rw [Option.any_some, Bool.eq_false_iff] at none ⊢
    exact fun word => none (isIdentifierChar_of_isWord word)

/-- No other character is in an identifier. -/
lemma IsIdentifier.not_mem (identifier : IsIdentifier c) {d : Char} (other : isIdentifierChar d = false) :
    d ∉ c := not_mem_of_all identifier.chars other

/-! ## What starts in an identifier -/

/-- Whether what a change takes the place of starts with a whole word that the rules look for. -/
def Opens (P : Change) : Prop := ∀ before old new after, P before old new after →
  ∃ r ∈ ruleWords, ∃ word more,
    old = word ++ more ∧ Reads r word ∧ Clear (more ++ after) ∧ Clear before

/-- A word at the start of a text is one of its first part, if no word goes on behind that. -/
lemma prefix_of_word {word rest : List Char} (eq : word ++ rest = c ++ y) (chars : word.all isWord)
    (clear : Clear y) (some : c ≠ []) : ∃ more, c = word ++ more ∧ rest = more ++ y := by
  obtain ⟨more, rfl, rest_eq⟩ | ⟨more, rfl, rfl⟩ := List.append_eq_append_iff.1 eq
  · exact ⟨more, rfl, rest_eq⟩
  · cases more with
    | nil => exact ⟨[], by simp, rfl⟩
    | cons d more =>
      have word : isWord d := List.all_eq_true.1 chars d (by simp)
      rw [show isWord d = false from clear] at word
      cases word

/-- Nothing starts in an identifier without words of the rules. -/
lemma Opens.prefix_of_free {P : Change} (opens : Opens P) (free : IsFree c) (clear : Clear y)
    {old new after : List Char} (eq : x ++ (c ++ y) = lead ++ (old ++ after))
    (place : P lead.reverse old new after) (reach : x <+: lead) : x ++ c <+: lead := by
  obtain ⟨r, mem, word, more, rfl, reads, ends, starts⟩ := opens _ _ _ _ place
  obtain ⟨u, rfl⟩ := reach
  rw [List.append_assoc] at eq
  have eq := List.append_cancel_left eq
  rw [List.prefix_append_right_inj]
  obtain ⟨v, rfl, -⟩ | ⟨v, rfl, eq'⟩ := List.append_eq_append_iff.1 eq
  · exact List.prefix_append c v
  by_cases none : v = []
  · exact ⟨[], by simp [none]⟩
  rw [List.append_assoc] at eq'
  obtain ⟨rest, rfl, eq''⟩ := prefix_of_word eq' reads.chars clear none
  have starts : u.getLast?.any isWord = false := by
    by_cases none : u = []
    · rw [none]
      rfl
    · rwa [Clear, List.head?_reverse, List.getLast?_append_of_ne_nil _ none] at starts
  have inside := mem_words starts reads.ne_nil reads.chars (clear_of_append (eq'' ▸ ends))
  exact absurd (isFolded_iff.2 reads.folds) (free word inside r mem)

/-- A negated match starts with a word of the rules. -/
lemma opens_findNotRegexp : Opens NotRegexp := by
  rintro _ _ _ after ⟨no, gap, word, clear, readsNo, isGap, -, -, rfl, -⟩
  have ends : Clear (gap ++ word ++ after) := by simpa using isGap.clear_append (word ++ after)
  exact ⟨"NOT", by decide, no, gap ++ word, rfl, readsNo, ends, clear⟩

/-- So does a word of them. -/
lemma opens_findWord {word new : String} (mem : word ∈ ruleWords) : Opens (OneWord word new) := by
  rintro _ old _ after ⟨clear, reads, ends, -⟩
  exact ⟨word, mem, old, [], by simp, reads, ends, clear⟩

/-- All places of a word of the rules are found. -/
lemma findsAll_ruleWord {word : String} (new : String) (mem : word ∈ ruleWords) :
    FindsAll (findWord word new) (OneWord word new) := by
  have check : ∀ r ∈ ruleWords, r.toList ≠ [] ∧ r.toList.all isWord := by decide
  exact findsAll_findWord (check word mem).1 (check word mem).2

/-- A pair of counts starts with such a word. -/
lemma opens_findLimitPair : Opens FullPages := by
  rintro _ _ _ after ⟨skip, take, clear, ⟨word, gap, blanks, blanks', reads, isGap, -, -, -, -, rfl⟩, -⟩
  exact ⟨"LIMIT", by decide, word, _, rfl, reads, by rw [List.append_assoc]; exact isGap.clear_append _, clear⟩

/-- So does a bound that is none. -/
lemma opens_findNoLimit : Opens NoLimit := by
  rintro _ _ _ after ⟨word, gap, clear, reads, isGap, -, rfl, -⟩
  exact ⟨"LIMIT", by decide, word, _, rfl, reads, by rw [List.append_assoc]; exact isGap.clear_append _, clear⟩

/-! ## What reaches into an identifier -/

/-- Whether nothing that starts in front of a text reaches into it. -/
def Misses (P : Change) (x c y : List Char) : Prop := ∀ lead u t new after,
  x = lead ++ u → c ++ y = t ++ after → u ≠ [] → t ≠ [] → ¬ P lead.reverse (u ++ t) new after

/-- What reaches into an identifier reaches into it with its first character. -/
lemma IsIdentifier.head_of_append (identifier : IsIdentifier c) {t after : List Char}
    (eq : c ++ y = t ++ after) (filled : t ≠ []) :
    ∃ d, t.head? = some d ∧ c.head? = some d ∧ d.isDigit = false ∧ isBlank d = false ∧
      isIdentifierChar d := by
  obtain ⟨d, c, rfl⟩ := List.exists_cons_of_ne_nil identifier.filled
  obtain ⟨e, t, rfl⟩ := List.exists_cons_of_ne_nil filled
  obtain ⟨rfl, -⟩ := List.cons.inj eq
  obtain ⟨digit, blank⟩ := Bool.or_eq_false_iff.1 identifier.start
  exact ⟨d, rfl, rfl, digit, blank, (Bool.and_eq_true_iff.1 identifier.chars).1⟩

section Misses
variable (borders : Borders x y)
include borders

/-- No word goes on where the text in front of an identifier ends. -/
lemma Borders.getLast {u : List Char} (eq : x = lead ++ u) : (lead ++ u).getLast?.any isWord = false :=
  any_isWord (eq ▸ borders.front)

/-- No word in front of an identifier reaches into it. -/
lemma misses_findWord {word new : String} : Misses (OneWord word new) x c y := by
  rintro lead u t _ after eq - filled - ⟨-, reads, -, -⟩
  exact reads.not_across filled (borders.getLast eq)

/-- Nor does a negated match, if no word of the rules is in the identifier. -/
lemma misses_findNotRegexp (identifier : IsIdentifier c) (free : IsFree c) : Misses NotRegexp x c y := by
  rintro lead u t _ after eq eq' filled filled' ⟨no, gap, word, -, readsNo, isGap, reads, ends, whole, -⟩
  have last := borders.getLast eq
  obtain ⟨d, head, -, -, blank, -⟩ := identifier.head_of_append eq' filled'
  have second : t ≠ word := by
    rintro rfl
    obtain ⟨more, rfl, rfl⟩ := prefix_of_word eq'.symm reads.chars (any_isWord borders.back) identifier.filled
    have inside : t ∈ words ([] ++ (t ++ more)) :=
      mem_words rfl reads.ne_nil reads.chars (clear_of_append ends)
    exact free t inside "REGEXP" (by decide) (isFolded_iff.2 reads.folds)
  obtain ⟨no', rfl, -⟩ | ⟨v, rfl, rest⟩ := List.append_eq_append_iff.1 whole
  · exact readsNo.not_across filled last
  obtain ⟨v, rfl, rfl⟩ | ⟨gap', rfl, rfl⟩ := List.append_eq_append_iff.1 rest
  · by_cases none : v = []
    · subst none
      exact second rfl
    · have last : (lead ++ (no ++ gap) ++ v).getLast?.any isWord = false := by simpa using last
      exact reads.not_across none last
  · cases gap' with
    | nil => exact second rfl
    | cons e gap' =>
      obtain rfl : e = d := Option.some.inj head
      rw [List.all_eq_true.1 isGap.2 e (by simp)] at blank
      cases blank

/-- Nor does a bound that is none. -/
lemma misses_findNoLimit (identifier : IsIdentifier c) : Misses NoLimit x c y := by
  rintro lead u t _ after eq eq' filled filled' ⟨word, gap, -, reads, isGap, -, whole, -⟩
  obtain ⟨d, head, -, digit, blank, char⟩ := identifier.head_of_append eq' filled'
  obtain ⟨word', rfl, -⟩ | ⟨v, rfl, rest⟩ := List.append_eq_append_iff.1 whole
  · exact reads.not_across filled (borders.getLast eq)
  have mem : d ∈ gap ++ ['-', '1'] := rest ▸ List.mem_append_right v (List.mem_of_head? head)
  simp only [List.mem_append, List.mem_cons, List.not_mem_nil, or_false] at mem
  obtain memGap | rfl | rfl := mem
  · rw [List.all_eq_true.1 isGap.2 d memGap] at blank
    cases blank
  · exact absurd char (by decide)
  · exact absurd digit (by decide)

/-- Nor does a pair of counts, if the identifier stands where none can. -/
lemma misses_findLimitPair (identifier : IsIdentifier c)
    (outside : c.head?.any isCountChar → ¬ AfterLimit x) : Misses FullPages x c y := by
  rintro lead u t _ after rfl eq filled filled' ⟨skip, take, clear, pair, -⟩
  obtain ⟨word, gap, blanks, blanks', reads, isGap, countSkip, blank, blank', countTake, whole⟩ := pair
  have last := borders.getLast rfl
  have starts : lead.getLast?.any isWord = false := by rwa [Clear, List.head?_reverse] at clear
  obtain ⟨word', rfl, -⟩ | ⟨v, rfl, rest⟩ := List.append_eq_append_iff.1 whole
  · exact reads.not_across filled last
  have blanksCount {blanks : List Char} (h : blanks.all isBlank) : blanks.all isCountChar :=
    all_of_imp (fun _ blank => by rw [isCountChar, blank]; rfl) h
  have countsCount {count : List Char} (h : IsCount count) : count.all isCountChar :=
    h.all (fun _ digit => by rw [isCountChar, digit, Bool.or_true]; rfl) (by decide)
  have counts : (gap ++ (skip ++ (blanks ++ ',' :: (blanks' ++ take)))).all isCountChar := by
    simp only [List.all_append, List.all_cons, Bool.and_eq_true]
    exact ⟨blanksCount isGap.2, countsCount countSkip, blanksCount blank, by decide, blanksCount blank',
      countsCount countTake⟩
  have clear := isGap.clear_append (skip ++ (blanks ++ ',' :: (blanks' ++ take)))
  rw [rest] at clear counts
  rw [List.all_append, Bool.and_eq_true] at counts
  obtain ⟨d, head, head', -⟩ := identifier.head_of_append eq filled'
  have count : c.head?.any isCountChar := by
    rw [head']
    exact List.all_eq_true.1 counts.2 d (List.mem_of_head? head)
  exact outside count ⟨lead, word, v, rfl, reads, counts.1, clear_of_append clear, starts⟩

end Misses

/-- What neither starts in an identifier nor reaches into it leaves it alone. -/
lemma Opens.spares {P : Change} (opens : Opens P) (free : IsFree c) (clear : Clear y) (misses : Misses P x c y) :
    Spares P x c y := by
  intro lead old new after eq place
  obtain ⟨more, rfl, -⟩ | ⟨u, rfl, eq'⟩ := List.append_eq_append_iff.1 eq
  · exact .inr (opens.prefix_of_free free clear eq place (List.prefix_append x more))
  by_cases none : u = []
  · subst none
    exact .inr (opens.prefix_of_free free clear eq place ⟨[], by simp⟩)
  obtain ⟨more, rfl, -⟩ | ⟨t, rfl, eq''⟩ := List.append_eq_append_iff.1 eq'
  · exact .inl ⟨more, List.append_assoc ..⟩
  by_cases none' : t = []
  · subst none'
    exact .inl ⟨[], by simp⟩
  · exact absurd place (misses lead u t new after rfl eq'' none none')

/-! ## Where a `LIMIT` has its counts -/

/-- Counts that stand behind a limit once parameters are marked did so before. -/
lemma AfterLimit.of_withMarks (after : AfterLimit (withMarks front)) : AfterLimit front := by
  obtain ⟨lead, word, counts, eq, reads, chars, clear, starts⟩ := after
  have first : (word ++ counts).head? ≠ some 's' := reads.head_ne (by decide) counts
  obtain ⟨lead', rest, rfl, rfl, marked⟩ := split_of_withMarks eq (.inr first)
  have percent : '%' ∉ word := reads.not_mem (by decide)
  have last : word.getLast? ≠ some '%' := fun last => percent (List.mem_of_getLast? last)
  obtain ⟨word', counts', rfl, marked', rfl⟩ := split_of_withMarks marked (.inl last)
  obtain rfl := eq_of_withMarks marked' percent
  have chars' : counts'.all isCountChar := by
    refine List.all_eq_true.2 fun d mem => ?_
    obtain rfl | mem := mem_withMarks mem
    · decide
    · exact List.all_eq_true.1 chars d mem
  rw [getLast_withMarks (getLast_ne_of_withMarks starts)] at starts
  exact ⟨lead', word', counts', rfl, reads, chars', clear_of_withMarks clear, starts⟩

/-- Putting in operators puts nothing behind a `LIMIT`. -/
lemma AfterLimit.of_edit {P : Change} (e : Edit P [] [] cs front)
    (operator : ∀ before old new after, P before old new after → Clear after ∧ new.getLast? = some '~')
    (after : AfterLimit front) : AfterLimit cs := by
  obtain ⟨lead, word, counts, eq, reads, chars, clear, starts⟩ := after
  have none : '~' ∉ word ++ counts := by
    rw [List.mem_append, not_or]
    exact ⟨reads.not_mem (by decide), not_mem_of_all chars (by decide)⟩
  obtain ⟨lead', rfl, e'⟩ :=
    e.suffix (fun before old new after place => ⟨'~', none, (operator before old new after place).2⟩) eq
  refine ⟨lead', word, counts, rfl, reads, chars, clear, e'.getLast_clear ?_ ?_ starts⟩
  · intro before old new after place
    obtain ⟨ends, last⟩ := operator before old new after place
    refine ⟨List.ne_nil_of_mem (List.mem_of_getLast? last), fun word => ?_⟩
    rw [show after.head?.any isWord = false from ends] at word
    cases word
  · rw [List.append_nil]
    exact reads.head_append counts

/-- So did those that do once operators are put in. -/
lemma AfterLimit.of_operators
    (after : AfterLimit (substitute (findWord "REGEXP" "~") none (substitute findNotRegexp none front))) :
    AfterLimit front := by
  have finds : Finds (findWord "REGEXP" "~") (OneWord "REGEXP" "~") := finds_findWord (by decide) (by decide)
  have before : AfterLimit (substitute findNotRegexp none front) := by
    refine after.of_edit (edit_substitute finds [] _) ?_
    rintro _ _ _ _ ⟨-, -, ends, rfl⟩
    exact ⟨ends, rfl⟩
  refine before.of_edit (edit_substitute finds_findNotRegexp [] _) ?_
  rintro _ _ _ _ ⟨_, _, _, -, -, -, -, ends, -, rfl⟩
  exact ⟨ends, rfl⟩

/-! ## Passes keep identifiers -/

/-- What starts with no identifier and reaches into none keeps it, and what stands next to it goes on with
it no more than before. -/
lemma FindsAll.substitute_identifier {find : Option Char → List Char → Option Match} {P : Change}
    (all : FindsAll find P) (opens : Opens P) (identifier : IsIdentifier c) (free : IsFree c)
    (borders : Borders x y) (misses : Misses P x c y) :
    substitute find none (x ++ (c ++ y)) = substitute find none x ++ (c ++ substitute find none y) ∧
      Borders (substitute find none x) (substitute find none y) := by
  have front := any_isWord borders.front
  have back : Clear y := any_isWord borders.back
  refine ⟨?_, ?_, ?_⟩
  · exact all.substitute_spares identifier.filled (opens.spares free back misses) (.inl front) (.inr back)
  · rw [all.getLast_substitute front]
    exact borders.front
  · rw [all.head_substitute back]
    exact borders.back

/-- An identifier that stands by itself does so once parameters are marked. -/
lemma Borders.withMarks (borders : Borders front back) (apart : front.getLast? ≠ some '?') :
    Borders (withMarks front) (withMarks back) := by
  constructor
  · rw [getLast_withMarks apart]
    exact borders.front
  · rw [head_withMarks]
    split
    · decide
    · exact borders.back

/-- The rules for a definition put the type for bytes in the place of every word `BLOB` in what the rules make
of the code in any other statement. -/
theorem translate_definition (code : List Char) :
    translate true code = mapWords (swapWord "BLOB" "BYTEA") (translate false code) :=
  substitute_findWord (by decide) (by decide) (translate false code)

/-- An identifier that stands by itself and has no word of the rules in it stays, between what becomes of the
code on both sides. -/
theorem translate_identifier (definition : Bool) {code : List Char} (identifier : IsIdentifier c)
    (free : IsFree c) (stretch : Stretch code front c back) :
    translate definition code = translate definition front ++ (c ++ translate definition back) ∧
      Borders (translate definition front) (translate definition back) := by
  obtain ⟨rfl, borders, apart, outside⟩ := stretch
  obtain ⟨regexp, blob⟩ : "REGEXP" ∈ ruleWords ∧ "BLOB" ∈ ruleWords := by decide
  have marked : withMarks (front ++ (c ++ back)) = withMarks front ++ (c ++ withMarks back) := by
    rw [withMarks_append, withMarks_append, withMarks_of_not_mem (identifier.not_mem (by decide))]
  have outside' (count : c.head?.any isCountChar) : ¬ AfterLimit (substitute (findWord "REGEXP" "~") none
      (substitute findNotRegexp none (withMarks front))) :=
    fun after => outside count after.of_operators.of_withMarks
  have borders₀ := borders.withMarks apart
  obtain ⟨eq₁, borders₁⟩ := findsAll_findNotRegexp.substitute_identifier opens_findNotRegexp
    identifier free borders₀ (misses_findNotRegexp borders₀ identifier free)
  obtain ⟨eq₂, borders₂⟩ := (findsAll_ruleWord "~" regexp).substitute_identifier (opens_findWord regexp)
    identifier free borders₁ (misses_findWord borders₁)
  obtain ⟨eq₃, borders₃⟩ := findsAll_findLimitPair.substitute_identifier opens_findLimitPair
    identifier free borders₂ (misses_findLimitPair borders₂ identifier outside')
  obtain ⟨eq₄, borders₄⟩ := findsAll_findNoLimit.substitute_identifier opens_findNoLimit
    identifier free borders₃ (misses_findNoLimit borders₃ identifier)
  have query : translate false (front ++ (c ++ back)) = translate false front ++ (c ++ translate false back) := by
    simp only [translate_eq, patterns, clausePatterns, replaceAll_cons]
    rw [marked, eq₁, eq₂, eq₃, eq₄]
    rfl
  cases definition with
  | false => exact ⟨query, borders₄⟩
  | true =>
    obtain ⟨eq₅, borders₅⟩ := (findsAll_ruleWord "BYTEA" blob).substitute_identifier (opens_findWord blob)
      identifier free borders₄ (misses_findWord borders₄)
    exact ⟨(congrArg (substitute (findWord "BLOB" "BYTEA") none) query).trans eq₅, borders₅⟩

/-! ## Columns in statements -/

/-- Every identifier without words of the rules stays as it is wherever it stands by itself in the code of a
statement, and nothing next to it goes on with it, so that a column has the same name in the definition that
creates it and in the statements that use it. What a definition changes besides are its words `BLOB`. -/
theorem column_adapt (sql : List Char) {c : List Char} (identifier : IsIdentifier c) (free : IsFree c) :
    (text ((lexemes sql).map (recode (translate (isDefinition sql)))) = adapt legacyRules sql ∧
      (IsSteady sql → lexemes (adapt legacyRules sql) =
        (lexemes sql).map (recode (translate (isDefinition sql))))) ∧
    ∀ code, ⟨.code, code⟩ ∈ lexemes sql →
      (∀ front back, Stretch code front c back → translate (isDefinition sql) code =
          translate (isDefinition sql) front ++ (c ++ translate (isDefinition sql) back) ∧
        Borders (translate (isDefinition sql) front) (translate (isDefinition sql) back)) ∧
      (isDefinition sql → translate (isDefinition sql) code =
        mapWords (swapWord "BLOB" "BYTEA") (translate false code)) := by
  refine ⟨⟨text_recode _ sql, fun steady => steady.lexemes_adapt⟩, fun code _ => ⟨?_, ?_⟩⟩
  · exact fun front back => translate_identifier _ identifier free
  · intro definition
    rw [definition]
    exact translate_definition code

/-- Without a word for a limit nothing stands behind one. -/
lemma not_afterLimit (none : ∀ u ∈ words front, ¬ isFolded u "LIMIT") : ¬ AfterLimit front := by
  rintro ⟨lead, word, counts, rfl, reads, -, clear, starts⟩
  exact none word (mem_words starts reads.ne_nil reads.chars clear) (isFolded_iff.2 reads.folds)

/-- A column with a name that starts like a type keeps it where it is created and where it is used. -/
theorem column_adapt_blobs :
    IsSteady "CREATE TABLE t (blobs BLOB)".toList ∧
      adapt legacyRules "CREATE TABLE t (blobs BLOB)".toList = "CREATE TABLE t (blobs BYTEA)".toList ∧
      translate true "CREATE TABLE t (blobs BLOB)".toList =
        translate true "CREATE TABLE t (".toList ++ ("blobs".toList ++ translate true " BLOB)".toList) ∧
      adapt legacyRules "SELECT blobs FROM t LIMIT 5, 10".toList =
        "SELECT blobs FROM t LIMIT 10 OFFSET 5".toList ∧
      translate false "SELECT blobs FROM t LIMIT 5, 10".toList =
        translate false "SELECT ".toList ++ ("blobs".toList ++ translate false " FROM t LIMIT 5, 10".toList) := by
  have identifier : IsIdentifier "blobs".toList := ⟨by decide, by decide, by decide⟩
  have free : IsFree "blobs".toList := by
    rw [IsFree]
    decide +kernel
  have cut : lexemes "CREATE TABLE t (blobs BLOB)".toList = [⟨.code, "CREATE TABLE t (blobs BLOB)".toList⟩] ∧
      lexemes "SELECT blobs FROM t LIMIT 5, 10".toList =
        [⟨.code, "SELECT blobs FROM t LIMIT 5, 10".toList⟩] := by
    decide +kernel
  have kinds : isDefinition "CREATE TABLE t (blobs BLOB)".toList = true ∧
      isDefinition "SELECT blobs FROM t LIMIT 5, 10".toList = false := by
    decide +kernel
  have created := column_adapt "CREATE TABLE t (blobs BLOB)".toList identifier free
  have used := column_adapt "SELECT blobs FROM t LIMIT 5, 10".toList identifier free
  rw [kinds.1, cut.1] at created
  rw [kinds.2, cut.2] at used
  have outside {front : List Char} (none : ∀ u ∈ words front, ¬ isFolded u "LIMIT") :
      "blobs".toList.head?.any isCountChar → ¬ AfterLimit front := fun _ => not_afterLimit none
  refine ⟨.of_gaps (by decide +kernel), created.1.1.symm.trans (by decide +kernel), ?_,
    used.1.1.symm.trans (by decide +kernel), ?_⟩
  · exact ((created.2 _ (by simp)).1 _ _
      ⟨by decide, ⟨by decide, by decide⟩, by decide, outside (by decide +kernel)⟩).1
  · exact ((used.2 _ (by simp)).1 _ _
      ⟨by decide, ⟨by decide, by decide⟩, by decide, outside (by decide +kernel)⟩).1

/-- A column `blob` gets another name where it is created, and none where it is used. -/
theorem column_adapt_fails :
    IsIdentifier "blob".toList ∧
      Stretch "CREATE TABLE t (blob BLOB)".toList "CREATE TABLE t (".toList "blob".toList " BLOB)".toList ∧
      adapt legacyRules "CREATE TABLE t (blob BLOB)".toList = "CREATE TABLE t (BYTEA BYTEA)".toList ∧
      Stretch "SELECT blob FROM t".toList "SELECT ".toList "blob".toList " FROM t".toList ∧
      adapt legacyRules "SELECT blob FROM t".toList = "SELECT blob FROM t".toList := by
  refine ⟨⟨by decide, by decide, by decide⟩,
    ⟨by decide, ⟨by decide, by decide⟩, by decide, fun _ => ?_⟩, by decide +kernel,
    ⟨by decide, ⟨by decide, by decide⟩, by decide, fun _ => ?_⟩, by decide +kernel⟩
  · exact not_afterLimit (by decide +kernel)
  · exact not_afterLimit (by decide +kernel)

end Tenancy.Sql
