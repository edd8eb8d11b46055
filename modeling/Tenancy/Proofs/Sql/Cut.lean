import Tenancy.Proofs.Sql.Locality

/-!
# Changing the code of a statement

The lexemes of a statement are its cut: code in which nothing else starts, and parts that are quoted
where they stand (`cut_lexemes`, `lexemes_of_cut`). Whether something is quoted depends on the code in
front of it, but only at its very end: what `Stands` in the place of a stretch of code is code as well,
and ends so that what follows is read as before. Where all stretches of code are changed like this
nothing else changes: `Recoded.lexemes_eq`.
-/

namespace Tenancy.Sql
open Text

/-! ## The cut of a statement -/

/-- Whether a text is code where it stands after `before`, given last character first, and in front of
`rest`. -/
def IsCode (before : List Char) : List Char → List Char → Prop
  | [], _ => True
  | c :: cs, rest => quotedAt? before (c :: (cs ++ rest)) = none ∧ IsCode (c :: before) cs rest

/-- Two texts together are code if each is in front of what follows it. -/
lemma isCode_append {before cs ds rest : List Char} :
    IsCode before (cs ++ ds) rest ↔
      IsCode before cs (ds ++ rest) ∧ IsCode (cs.reverse ++ before) ds rest := by
  induction cs generalizing before with
  | nil => simp [IsCode]
  | cons c cs ih =>
    rw [List.cons_append, IsCode, IsCode, ih, List.append_assoc, List.reverse_cons, List.append_assoc,
      and_assoc]
    rfl

/-- A plain text is code anywhere. -/
lemma isCode_of_isPlain {cs : List Char} (h : isPlain cs) (before rest : List Char) :
    IsCode before cs rest := by
  induction cs generalizing before with
  | nil => trivial
  | cons c cs ih =>
    obtain ⟨head, tail⟩ := Bool.and_eq_true_iff.1 h
    refine ⟨?_, ih tail _⟩
    rw [Bool.or_eq_true] at head
    rcases head with bare | dollar
    · exact quotedAt_of_isBare bare _ _
    · obtain ⟨sign, digit⟩ := Bool.and_eq_true_iff.1 dollar
      obtain rfl := of_decide_eq_true sign
      have first : (cs ++ rest).head?.any Char.isDigit := by
        cases cs with
        | nil => cases digit
        | cons d cs => exact digit
      simp [quotedAt?, apostrophe, dollarTag_digit first]

/-- Only the first character of what follows counts, if it is none of a name. -/
lemma IsCode.follow {before cs rest rest' : List Char} (h : IsCode before cs rest)
    (same : rest.head? = rest'.head?) (name : rest.head?.any isNameChar = false) :
    IsCode before cs rest' := by
  induction cs generalizing before with
  | nil => trivial
  | cons c cs ih =>
    refine ⟨?_, ih h.2⟩
    have head : (cs ++ rest).head? = (cs ++ rest').head? := by
      rw [List.head?_append, List.head?_append, same]
    obtain ⟨single, double, dash, slash, dollar⟩ := quotedAt_eq_none_iff.1 h.1
    refine quotedAt_eq_none_iff.2 ⟨single, double, head ▸ dash, head ▸ slash, fun eq start => ?_⟩
    have none := dollar eq start
    rw [Bool.eq_false_iff, ne_eq, dollarTag_isSome_iff] at none ⊢
    rintro ⟨tag, body, split, tagged⟩
    -- The tag with its dollar sign ends in the code, or the sign is what follows.
    rcases List.append_eq_append_iff.1 split with ⟨more, rfl, rest_eq⟩ | ⟨more, rfl, body_eq⟩
    · cases more with
      | nil =>
        rw [rest_eq] at same
        obtain ⟨body', rfl⟩ := List.head?_eq_some_iff.1 same
        exact none ⟨cs, body', by simp, by simpa using tagged⟩
      | cons d more =>
        rw [rest_eq] at same
        have char : isNameChar d := List.all_eq_true.1 tagged.name d (by simp)
        rw [same] at name
        simp [char] at name
    · cases more with
      | nil =>
        rw [← show '$' :: body = rest' from body_eq] at same
        obtain ⟨body', rfl⟩ := List.head?_eq_some_iff.1 same
        exact none ⟨tag, body', by simp, tagged⟩
      | cons d more =>
        obtain ⟨rfl, rfl⟩ := List.cons.inj body_eq
        exact none ⟨tag, more ++ rest, by simp, tagged⟩

/-- Whether lexemes are what a statement is cut into after `before`, given last character first. -/
inductive Cut : List Char → List Lexeme → Prop where
  | nil {before} : Cut before []
  | quoted {before kind taken ls} :
    quotedAt? before (taken ++ text ls) = some (kind, taken, text ls) →
    Cut (taken.reverse ++ before) ls →
    Cut before (⟨kind, taken⟩ :: ls)
  | code {before cs ls} :
    cs ≠ [] →
    IsCode before cs (text ls) →
    (∀ l, ls.head? = some l → l.kind ≠ .code) →
    Cut (cs.reverse ++ before) ls →
    Cut before (⟨.code, cs⟩ :: ls)

/-- Code that was gathered is put in front of a cut that starts with none. -/
lemma Cut.gather {code before : List Char} {ls : List Lexeme} (h : Cut (code ++ before) ls)
    (inside : IsCode before code.reverse (text ls)) (first : ∀ l, ls.head? = some l → l.kind ≠ .code) :
    Cut before (gathered code ++ ls) := by
  cases code with
  | nil => exact h
  | cons c code =>
    refine .code (by simp) inside first ?_
    rwa [List.reverse_reverse]

/-- Lexemes are cut as they are found, if what was gathered is code. -/
lemma cut_lexemesFrom {code before cs : List Char} (h : IsCode before code.reverse cs) :
    Cut before (lexemesFrom code (code ++ before) cs) := by
  generalize around : code ++ before = b
  fun_induction lexemesFrom code b cs generalizing before with
  | case1 code b =>
    have none : Cut (code ++ before) [] := .nil
    have all := none.gather h (by rintro l ⟨⟩)
    rwa [List.append_nil] at all
  | case2 code b c cs kind taken rest found ih =>
    obtain ⟨eq, other⟩ := quotedAt_append found
    have tail : Cut (taken.reverse ++ b) (lexemesFrom [] (taken.reverse ++ b) rest) := ih trivial rfl
    have spelled : text (lexemesFrom [] (taken.reverse ++ b) rest) = rest := text_lexemesFrom _ _ _
    refine Cut.gather ?_ ?_ ?_
    · rw [around]
      refine .quoted ?_ tail
      rw [spelled, eq, found]
    · show IsCode before code.reverse (taken ++ text (lexemesFrom [] (taken.reverse ++ b) rest))
      rwa [spelled, eq]
    · rintro l ⟨⟩
      exact other
  | case3 code b c cs none ih =>
    refine ih ?_ (congrArg (c :: ·) around)
    rw [List.reverse_cons, isCode_append]
    refine ⟨h, ?_, trivial⟩
    rw [List.reverse_reverse, around]
    exact none

/-- The lexemes of a statement are a cut. -/
theorem cut_lexemes (sql : List Char) : Cut [] (lexemes sql) :=
  cut_lexemesFrom (show IsCode [] ([] : List Char).reverse sql from trivial)

/-- Code is gathered up to its end. -/
lemma lexemesFrom_isCode {before cs rest : List Char} (h : IsCode before cs rest) (code : List Char) :
    lexemesFrom code before (cs ++ rest) =
      lexemesFrom (cs.reverse ++ code) (cs.reverse ++ before) rest := by
  induction cs generalizing before code with
  | nil => rfl
  | cons c cs ih =>
    rw [List.cons_append, lexemesFrom_cons, h.1, ih h.2]
    simp

/-- Where a quotation starts or the text ends, the code that was gathered is a lexeme. -/
lemma lexemesFrom_gather {before cs : List Char} (h : (quotedAt? before cs).isSome ∨ cs = [])
    (code : List Char) : lexemesFrom code before cs = gathered code ++ lexemesFrom [] before cs := by
  cases cs with
  | nil =>
    rw [lexemesFrom, lexemesFrom]
    exact (List.append_nil _).symm
  | cons c cs =>
    obtain ⟨⟨kind, taken, rest⟩, found⟩ := Option.isSome_iff_exists.1 (h.resolve_right (List.cons_ne_nil c cs))
    rw [lexemesFrom_cons, lexemesFrom_cons, found]
    rfl

/-- Where the first lexeme is not code, a quotation starts or the text ends. -/
lemma Cut.isSome_quotedAt {before : List Char} {ls : List Lexeme} (h : Cut before ls)
    (first : ∀ l, ls.head? = some l → l.kind ≠ .code) :
    (quotedAt? before (text ls)).isSome ∨ text ls = [] := by
  cases h with
  | nil => exact .inr rfl
  | @quoted _ kind taken ls found tail =>
    refine .inl ?_
    rw [show text (⟨kind, taken⟩ :: ls) = taken ++ text ls from rfl, found]
    rfl
  | code => exact absurd rfl (first _ rfl)

/-- A text that was cut is cut into the same lexemes. -/
lemma lexemesFrom_of_cut {before : List Char} {ls : List Lexeme} (h : Cut before ls) :
    lexemesFrom [] before (text ls) = ls := by
  induction h with
  | nil =>
    rw [text, List.flatMap_nil, lexemesFrom]
    rfl
  | @quoted before kind taken ls found tail ih =>
    have whole : text (⟨kind, taken⟩ :: ls) = taken ++ text ls := rfl
    rw [whole]
    cases taken with
    | nil => exact absurd (length_quotedAt_lt found) (Nat.lt_irrefl _)
    | cons c taken =>
      rw [List.cons_append] at found ⊢
      rw [lexemesFrom_cons, found]
      exact congrArg (_ :: ·) ih
  | @code before cs ls some inside first tail ih =>
    have whole : text (⟨.code, cs⟩ :: ls) = cs ++ text ls := rfl
    rw [whole, lexemesFrom_isCode inside, List.append_nil,
      lexemesFrom_gather (tail.isSome_quotedAt first), ih]
    obtain ⟨front, c, rfl⟩ := (List.eq_nil_or_concat cs).resolve_left some
    simp [gathered]

/-- A cut is what its text is cut into. -/
theorem lexemes_of_cut {ls : List Lexeme} (h : Cut [] ls) : lexemes (text ls) = ls :=
  lexemesFrom_of_cut h

/-! ## Code in the place of other code -/

/-- Whether how a text starts is read depends on the character in front of it: at the mark of a
dollar-quoted body, and at the letter of a literal with escapes. -/
def looksBack : List Char → Bool
  | [] => false
  | c :: cs =>
    (c = '$' && (dollarTag? cs).isSome) || ((c = 'E' || c = 'e') && cs.head? = some apostrophe)

/-- Whether two texts, given last character first, are the same to what follows them. -/
def EndAlike (before before' rest : List Char) : Prop :=
  (looksBack rest → before.head?.any isNameChar = before'.head?.any isNameChar) ∧
    (rest.head? = some apostrophe → isEscapeLiteral before = isEscapeLiteral before')

namespace EndAlike
variable {before before' before'' rest : List Char}

/-- A text is the same as itself to what follows. -/
lemma refl (before rest : List Char) : EndAlike before before rest := ⟨fun _ => rfl, fun _ => rfl⟩

/-- Texts that are the same as a third are so to each other. -/
lemma trans (h : EndAlike before before' rest) (h' : EndAlike before' before'' rest) :
    EndAlike before before'' rest :=
  ⟨fun looks => (h.1 looks).trans (h'.1 looks), fun mark => (h.2 mark).trans (h'.2 mark)⟩

/-- The character that is kept in front of a text. -/
lemma cons {c : Char} (h : EndAlike before before' (c :: rest)) :
    EndAlike (c :: before) (c :: before') rest := by
  refine ⟨fun _ => rfl, fun mark => ?_⟩
  rw [isEscapeLiteral, isEscapeLiteral]
  cases letter : (c = 'E' || c = 'e' : Bool) with
  | false => rfl
  | true =>
    have looks : looksBack (c :: rest) := by
      rw [looksBack, letter, mark]
      simp
    rw [h.1 looks]

/-- The same is quoted behind texts that are the same to it. -/
lemma quotedAt_eq (h : EndAlike before before' rest) :
    quotedAt? before rest = quotedAt? before' rest := by
  cases rest with
  | nil => rfl
  | cons c cs =>
    rw [quotedAt?, quotedAt?]
    by_cases mark : c = apostrophe
    · rw [if_pos mark, if_pos mark, h.2 (by rw [mark]; rfl)]
    by_cases tagged : c = '$' ∧ (dollarTag? cs).isSome
    · have looks : looksBack (c :: cs) := by
        rw [looksBack]
        simp [tagged]
      rw [h.1 looks]
      simp [mark]
    · cases found : dollarTag? cs with
      | none => simp [mark]
      | some tag =>
        have other : c ≠ '$' := fun eq => tagged ⟨eq, by rw [found]; rfl⟩
        simp [mark, other]

/-- What is quoted is the same to all that follows it. -/
lemma quoted {kind : LexemeKind} {taken : List Char}
    (found : quotedAt? before (taken ++ rest) = some (kind, taken, rest)) (before' rest' : List Char) :
    EndAlike (taken.reverse ++ before) (taken.reverse ++ before') rest' := by
  cases taken with
  | nil => exact absurd (length_quotedAt_lt found) (Nat.lt_irrefl _)
  | cons c taken =>
    rcases List.eq_nil_or_concat taken with rfl | ⟨init, d, rfl⟩
    · have opens : (c = 'E' || c = 'e' : Bool) = false := by
        rw [Bool.eq_false_iff, ne_eq, Bool.or_eq_true, decide_eq_true_eq, decide_eq_true_eq]
        rintro (rfl | rfl)
        · rw [List.singleton_append, quotedAt_of_isBare (by decide)] at found
          cases found
        · rw [List.singleton_append, quotedAt_of_isBare (by decide)] at found
          cases found
      refine ⟨fun _ => rfl, fun _ => ?_⟩
      show isEscapeLiteral (c :: before) = isEscapeLiteral (c :: before')
      rw [isEscapeLiteral, isEscapeLiteral, opens]
      rfl
    · -- The last two characters are all that counts.
      refine ⟨fun _ => ?_, fun _ => ?_⟩
      · simp
      · have last (b : List Char) :
            ((c :: init.concat d).reverse ++ b) = d :: ((c :: init).reverse ++ b) := by
          simp
        rw [last, last, isEscapeLiteral, isEscapeLiteral]
        have head (b : List Char) : ((c :: init).reverse ++ b).head? = (c :: init).getLast? := by
          rw [List.head?_append, List.head?_reverse, List.getLast?_cons]
          rfl
        rw [head, head]

/-- What comes in the place of a text looks back no more than the text did. -/
lemma instead {cs cs' : List Char} (h : EndAlike before before' (cs ++ rest))
    (follows : Follows (cs ++ rest) (cs' ++ rest))
    (looks : looksBack (cs' ++ rest) → looksBack (cs ++ rest)) :
    EndAlike before before' (cs' ++ rest) := by
  refine ⟨fun back => h.1 (looks back), fun mark => h.2 ?_⟩
  cases eq : decide ((cs ++ rest).head? = some apostrophe) with
  | true => exact of_decide_eq_true eq
  | false => exact absurd mark (follows.head_ne (.inl rfl) (of_decide_eq_false eq))

end EndAlike

/-- Whether a text can stand where a stretch of code stood in front of `rest`. -/
structure Stands (rest cs cs' : List Char) : Prop where
  some : cs' ≠ []
  follows : Follows cs cs'
  looks : looksBack (cs' ++ rest) → looksBack (cs ++ rest)
  code : ∀ {before before'}, EndAlike before before' (cs ++ rest) → IsCode before cs rest →
    IsCode before' cs' rest ∧ EndAlike (cs.reverse ++ before) (cs'.reverse ++ before') rest

/-- Texts follow alike wherever they go on. -/
lemma Follows.append {r r' : List Char} (h : Follows r r') (some : r' ≠ []) (more more' : List Char) :
    Follows (r ++ more) (r' ++ more') := by
  cases r with
  | nil => exact absurd (h.eq_nil rfl) some
  | cons c r =>
    obtain ⟨c', r', rfl⟩ := List.exists_cons_of_ne_nil some
    exact h

/-- What can stand in the place of what can stand somewhere can stand there. -/
lemma Stands.trans {rest cs cs' cs'' : List Char} (h : Stands rest cs cs') (h' : Stands rest cs' cs'') :
    Stands rest cs cs'' where
  some := h'.some
  follows := h.follows.trans h'.follows
  looks back := h.looks (h'.looks back)
  code {before before''} alike inside := by
    obtain ⟨inside', alike'⟩ := h.code (.refl before _) inside
    have follows := h.follows.append h.some rest rest
    obtain ⟨inside'', alike''⟩ := h'.code (alike.instead follows h.looks) inside'
    exact ⟨inside'', alike'.trans alike''⟩

/-- Whether lexemes are others with texts that can stand there in place of the code. -/
inductive Recoded : (ls ms : List Lexeme) → Prop where
  | nil : Recoded [] []
  | quoted {l ls ms} : l.kind ≠ .code → Recoded ls ms → Recoded (l :: ls) (l :: ms)
  | code {cs cs' ls ms} :
    Stands (text ls) cs cs' → Recoded ls ms → Recoded (⟨.code, cs⟩ :: ls) (⟨.code, cs'⟩ :: ms)

namespace Recoded
variable {ls ms : List Lexeme}

/-- Where code was replaced, a text starts like the old one as far as it matters. -/
lemma follows (h : Recoded ls ms) : Follows (text ls) (text ms) := by
  induction h with
  | nil => exact .refl _
  | @quoted l ls ms _ _ ih =>
    show Follows (l.text ++ text ls) (l.text ++ text ms)
    cases l.text with
    | nil => exact ih
    | cons c cs => exact .inl rfl
  | @code cs cs' ls ms stands _ _ => exact stands.follows.append stands.some (text ls) (text ms)

/-- It starts with a lexeme of the same kind. -/
lemma kind_head (h : Recoded ls ms) : ms.head?.map (·.kind) = ls.head?.map (·.kind) := by
  cases h <;> rfl

end Recoded

/-- A part that is no code starts with no character of names. -/
lemma isNameChar_of_quotedAt {before cs : List Char} (h : (quotedAt? before cs).isSome) :
    cs.head?.any isNameChar = false := by
  cases cs with
  | nil => rfl
  | cons c cs =>
    cases name : isNameChar c with
    | true =>
      rw [quotedAt_of_isBare (isBare_of_isNameChar name)] at h
      cases h
    | false => simpa using name

/-- Changing the code of a cut gives a cut. -/
lemma Cut.recoded {before before' : List Char} {ls ms : List Lexeme} (cut : Cut before ls)
    (h : Recoded ls ms) (alike : EndAlike before before' (text ls)) : Cut before' ms := by
  induction cut generalizing before' ms with
  | nil =>
    cases h
    exact .nil
  | @quoted before kind taken ls found tail ih =>
    cases h with
    | @quoted _ _ ms _ h =>
      have found' : quotedAt? before' (taken ++ text ls) = some (kind, taken, text ls) := by
        rw [← found]
        exact alike.quotedAt_eq.symm
      exact .quoted (quotedAt_follow found' h.follows) (ih h (.quoted found before' _))
    | code => exact absurd rfl (quotedAt_append found).2
  | @code before cs ls some inside first tail ih =>
    cases h with
    | quoted other => exact absurd rfl other
    | @code _ cs' _ ms stands h =>
      obtain ⟨inside', alike'⟩ := stands.code alike inside
      have first' : ∀ l, ms.head? = Option.some l → l.kind ≠ .code := by
        intro m head code
        have kinds := h.kind_head
        rw [head] at kinds
        obtain ⟨l, eq, same⟩ := Option.map_eq_some_iff.1 kinds.symm
        exact first l eq (same.trans code)
      -- What follows the code starts with the same mark as before.
      have heads : (text ls).head? = (text ms).head? := by
        cases h with
        | nil => rfl
        | @quoted l ls ms _ _ =>
          cases tail with
          | @quoted _ _ taken _ found _ =>
            cases taken with
            | nil => exact absurd (length_quotedAt_lt found) (Nat.lt_irrefl _)
            | cons c taken => rfl
          | code => exact absurd rfl (first _ rfl)
        | code => exact absurd rfl (first _ rfl)
      have mark : (text ls).head?.any isNameChar = false := by
        rcases tail.isSome_quotedAt first with found | nil
        · exact isNameChar_of_quotedAt found
        · rw [nil]
          rfl
      exact .code stands.some (inside'.follow heads mark) first' (ih h alike')

/-- Changing the code of a statement changes nothing else. -/
theorem Recoded.lexemes_eq {sql : List Char} {ms : List Lexeme} (h : Recoded (lexemes sql) ms) :
    lexemes (text ms) = ms :=
  lexemes_of_cut ((cut_lexemes sql).recoded h (.refl [] _))

/-! ## Functions on code -/

/-- A stretch of code is not empty, and what follows it is quoted. -/
lemma Cut.code_of_append {before t : List Char} {front ls : List Lexeme}
    (h : Cut before (front ++ ⟨.code, t⟩ :: ls)) :
    t ≠ [] ∧
      ((quotedAt? (t.reverse ++ (text front).reverse ++ before) (text ls)).isSome ∨ text ls = []) := by
  induction front generalizing before with
  | nil =>
    cases h with
    | quoted found _ => exact absurd rfl (quotedAt_append found).2
    | code some inside first tail => exact ⟨some, by simpa [text] using tail.isSome_quotedAt first⟩
  | cons l front ih =>
    have whole : (text (l :: front)).reverse = (text front).reverse ++ l.text.reverse := by
      simp [text]
    rw [whole]
    cases h with
    | quoted _ tail => simpa using ih tail
    | code _ _ _ tail => simpa using ih tail

/-- Neither a character of a name nor another of a word stands where a quotation starts. -/
lemma clear_of_quotedAt {before cs : List Char} (h : (quotedAt? before cs).isSome) :
    cs.head?.any isWord = false := by
  cases cs with
  | nil => rfl
  | cons c cs =>
    cases word : isWord c with
    | true =>
      rw [quotedAt_of_isBare (isBare_of_isWord word)] at h
      cases h
    | false => simp [word]

/-- What the code of a statement is like, and what follows it. -/
lemma code_of_lexemes {sql t : List Char} {front ls : List Lexeme}
    (h : lexemes sql = front ++ ⟨.code, t⟩ :: ls) : t ≠ [] ∧ (text ls).head?.any isWord = false := by
  obtain ⟨some, quoted | none⟩ := (h ▸ cut_lexemes sql).code_of_append
  · exact ⟨some, clear_of_quotedAt quoted⟩
  · exact ⟨some, by rw [none]; rfl⟩

/-- A lexeme with a function applied to it if it is code. -/
def recode (f : List Char → List Char) (l : Lexeme) : Lexeme :=
  if l.kind = .code then ⟨.code, f l.text⟩ else l

/-- The recoded lexemes spell the statement with its code changed. -/
lemma text_recode (f : List Char → List Char) (sql : List Char) :
    text ((lexemes sql).map (recode f)) = mapCode f sql := by
  have same : ∀ l ∈ lexemes sql, (recode f l).text = if l.kind = .code then f l.text else l.text := by
    intro l _
    rw [recode]
    split <;> rfl
  rw [mapCode, text, List.flatMap_map, List.flatMap_def, List.map_congr_left same, ← List.flatMap_def]

/-- Applying a function to code gives texts that stand where they stood if it does so everywhere. -/
lemma recoded_map {f : List Char → List Char} {ls : List Lexeme}
    (h : ∀ front t rest, ls = front ++ ⟨.code, t⟩ :: rest → Stands (text rest) t (f t)) :
    Recoded ls (ls.map (recode f)) := by
  induction ls with
  | nil => exact .nil
  | cons l ls ih =>
    have tail := ih fun front t rest eq => h (l :: front) t rest (congrArg (l :: ·) eq)
    obtain ⟨kind, t⟩ := l
    rw [List.map_cons, recode]
    split
    · next code =>
      obtain rfl : kind = .code := code
      exact .code (h [] t ls rfl) tail
    · next other => exact .quoted other tail

/-- Whether lexemes differ in their code alone, where the texts are as `R` says. -/
inductive InCode (R : List Char → List Char → Prop) : (ls ms : List Lexeme) → Prop where
  | nil : InCode R [] []
  | quoted {l ls ms} : l.kind ≠ .code → InCode R ls ms → InCode R (l :: ls) (l :: ms)
  | code {cs cs' ls ms} :
    R cs cs' → InCode R ls ms → InCode R (⟨.code, cs⟩ :: ls) (⟨.code, cs'⟩ :: ms)

/-- A change of each stretch of code changes nothing else. -/
lemma inCode_map {R : List Char → List Char → Prop} {f : List Char → List Char} {ls : List Lexeme}
    (h : ∀ t, ⟨.code, t⟩ ∈ ls → R t (f t)) : InCode R ls (ls.map (recode f)) := by
  induction ls with
  | nil => exact .nil
  | cons l ls ih =>
    have tail := ih fun t mem => h t (List.mem_cons_of_mem l mem)
    obtain ⟨kind, t⟩ := l
    rw [List.map_cons, recode]
    split
    · next code =>
      obtain rfl : kind = .code := code
      exact .code (h t List.mem_cons_self) tail
    · next other => exact .quoted other tail

/-- One change of the code after the other is one. -/
lemma InCode.trans {R S T : List Char → List Char → Prop} {ls ms ns : List Lexeme}
    (comp : ∀ cs ds es, R cs ds → S ds es → T cs es) (h : InCode R ls ms) (h' : InCode S ms ns) :
    InCode T ls ns := by
  induction h generalizing ns with
  | nil =>
    cases h'
    exact .nil
  | quoted other _ ih =>
    cases h' with
    | quoted _ tail => exact .quoted other (ih tail)
    | code => exact absurd rfl other
  | code first _ ih =>
    cases h' with
    | quoted other => exact absurd rfl other
    | code second tail => exact .code (comp _ _ _ first second) (ih tail)

end Tenancy.Sql
