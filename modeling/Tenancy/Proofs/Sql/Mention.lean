import Tenancy.Proofs.Sql.Lexeme
import Tenancy.Proofs.Text.Words
import Tenancy.Sql.Identifier
import Tenancy.Sql.Parameter

/-!
# What a statement mentions

A statement can only be about tables whose names it mentions: as a word of its code, as a quoted name,
or in a dollar-quoted body, which is a statement in turn. `Mentions` says which names these are; literals
and comments mention nothing. A statement of code alone mentions its words: `mentions_of_isPlain`.
-/

namespace Tenancy.Sql
open Text

/-- What stands between the marks of a dollar-quoted part, with the closing mark. -/
def dollarBody (text : List Char) : List Char := ((text.drop 1).dropWhile (· ≠ '$')).drop 1

/-- Whether a statement mentions a name. -/
inductive Mentions : List Char → List Char → Prop where
  | word {sql text w : List Char} (mem : ⟨.code, text⟩ ∈ lexemes sql) (memw : w ∈ words text) :
    Mentions sql (lower w)
  | quoted {sql text : List Char} (mem : ⟨.quotedName, text⟩ ∈ lexemes sql) :
    Mentions sql (foldName text)
  | body {sql text name : List Char} (mem : ⟨.dollarQuoted, text⟩ ∈ lexemes sql)
    (inside : Mentions (dollarBody text) name) : Mentions sql name

/-- Marks that were doubled are single again. -/
lemma singleQuotes_doubleQuotes (name : List Char) : singleQuotes (doubleQuotes name) = name := by
  induction name with
  | nil => rfl
  | cons c name ih =>
    rw [doubleQuotes, List.flatMap_cons, ← doubleQuotes]
    by_cases mark : c = '"'
    · subst mark
      simp [singleQuotes, ih]
    · rw [if_neg mark]
      cases rest : doubleQuotes name with
      | nil =>
        rw [rest] at ih
        cases ih
        rfl
      | cons d more =>
        rw [rest] at ih
        simp [singleQuotes, mark, ih]

/-- A name in quotes has what stands between them. -/
lemma unquoted_quoteName (name : List Char) :
    unquoted? (quoteName name) = some (doubleQuotes name) := by
  simp [quoteName, unquoted?]

/-- A name in quotes is folded to itself. -/
lemma foldName_quoteName (name : List Char) : foldName (quoteName name) = name := by
  rw [foldName, unquoted_quoteName]
  exact singleQuotes_doubleQuotes name

/-- The quotes end where the name does. -/
lemma throughMark_doubleQuotes (x : List Char) :
    throughMark '"' false (doubleQuotes x ++ ['"']) = (doubleQuotes x ++ ['"'], []) := by
  induction x with
  | nil => rfl
  | cons c x ih =>
    rw [doubleQuotes, List.flatMap_cons, ← doubleQuotes]
    by_cases mark : c = '"'
    · subst mark
      simp [throughMark, prepend, ih]
    · obtain ⟨d, rest, eq⟩ := List.exists_cons_of_ne_nil (l := doubleQuotes x ++ ['"']) (by simp)
      rw [eq] at ih
      simp [throughMark, prepend, mark, eq, ih]

/-- Code in front of a name in quotes and the name are two lexemes. -/
lemma lexemes_quoteName {cs : List Char} (bare : cs.all isBare) (some : cs ≠ []) (x : List Char) :
    lexemes (cs ++ quoteName x) = [⟨.code, cs⟩, ⟨.quotedName, quoteName x⟩] := by
  have found (before : List Char) :
      quotedAt? before (quoteName x) = Option.some (.quotedName, quoteName x, []) := by
    rw [quoteName, List.cons_append, quotedAt?, if_neg (by decide), if_pos rfl, throughMark_doubleQuotes]
    rfl
  rw [lexemes, lexemesFrom_append bare, List.append_nil, quoteName, List.cons_append, lexemesFrom_cons,
    ← List.cons_append, ← quoteName, found]
  dsimp only
  rw [gathered_reverse some, lexemesFrom]
  rfl

/-- Whether a text is code wherever it stands: each dollar sign is that of a numbered parameter. -/
def isPlain : List Char → Bool
  | [] => true
  | c :: cs => (isBare c || (c = '$' && cs.head?.any Char.isDigit)) && isPlain cs

/-- A text that opens nothing is plain. -/
lemma isPlain_of_isBare {cs : List Char} (h : cs.all isBare) : isPlain cs := by
  induction cs with
  | nil => rfl
  | cons c cs ih =>
    obtain ⟨head, tail⟩ := Bool.and_eq_true_iff.1 h
    rw [isPlain, head, ih tail]
    rfl

/-- Two plain texts are plain together. -/
lemma isPlain_append {cs ds : List Char} (hc : isPlain cs) (hd : isPlain ds) :
    isPlain (cs ++ ds) := by
  induction cs with
  | nil => exact hd
  | cons c cs ih =>
    obtain ⟨head, tail⟩ := Bool.and_eq_true_iff.1 hc
    rw [List.cons_append, isPlain, ih tail, Bool.and_true]
    rw [Bool.or_eq_true] at head ⊢
    rcases head with bare | dollar
    · exact .inl bare
    · refine .inr ?_
      cases cs with
      | nil => simp at dollar
      | cons d cs => exact dollar

/-- No tag starts with a digit. -/
lemma dollarTag_digit {cs : List Char} (h : cs.head?.any Char.isDigit) : dollarTag? cs = none := by
  obtain ⟨d, first, digit⟩ := (Option.any_eq_true _ _).1 h
  obtain ⟨cs, rfl⟩ := List.head?_eq_some_iff.1 first
  have name : isNameChar d := by simp [isNameChar, Char.isAlphanum, digit]
  unfold dollarTag?
  split
  · simp [name, digit]
  · rfl

/-- A plain text is gathered to its end. -/
lemma lexemesFrom_plain {cs : List Char} (h : isPlain cs) (code before : List Char) :
    lexemesFrom code before cs = gathered (cs.reverse ++ code) := by
  induction cs generalizing code before with
  | nil => rw [lexemesFrom]; rfl
  | cons c cs ih =>
    obtain ⟨head, tail⟩ := Bool.and_eq_true_iff.1 h
    have here : quotedAt? before (c :: cs) = none := by
      rw [Bool.or_eq_true] at head
      rcases head with bare | dollar
      · exact quotedAt_of_isBare bare before cs
      · obtain ⟨sign, digit⟩ := Bool.and_eq_true_iff.1 dollar
        obtain rfl := of_decide_eq_true sign
        simp [quotedAt?, apostrophe, dollarTag_digit digit]
    rw [lexemesFrom_cons, here]
    simp [ih tail]

/-- A plain text is code as a whole, if there is anything of it. -/
lemma lexemes_of_isPlain {cs : List Char} (h : isPlain cs) :
    lexemes cs = if cs = [] then [] else [⟨.code, cs⟩] := by
  rw [lexemes, lexemesFrom_plain h, List.append_nil]
  split
  · next none =>
    rw [none]
    rfl
  · next some => exact gathered_reverse some

/-- It is its only lexeme. -/
lemma eq_of_mem_lexemes {cs : List Char} (h : isPlain cs) {l : Lexeme} (mem : l ∈ lexemes cs) :
    l = ⟨.code, cs⟩ := by
  rw [lexemes_of_isPlain h] at mem
  split at mem
  · cases mem
  · exact List.mem_singleton.1 mem

/-- A change of code changes all of it. -/
lemma mapCode_of_isPlain {f : List Char → List Char} {cs : List Char} (h : isPlain cs)
    (some : cs ≠ []) : mapCode f cs = f cs := by
  rw [mapCode, lexemes_of_isPlain h, if_neg some]
  simp

/-- Its parameters are numbered from the first on. -/
lemma numberParameters_of_isPlain {cs : List Char} (h : isPlain cs) :
    numberParameters cs = (numberCode 0 cs).1 := by
  rw [numberParameters, lexemes_of_isPlain h]
  split
  · next none =>
    rw [none]
    rfl
  · simp [numberLexemes]

/-- It mentions its words, folded. -/
lemma mentions_of_isPlain {cs name : List Char} (h : isPlain cs) (mentions : Mentions cs name) :
    ∃ w ∈ words cs, name = lower w := by
  cases mentions with
  | word mem memw =>
    cases eq_of_mem_lexemes h mem
    exact ⟨_, memw, rfl⟩
  | quoted mem => cases eq_of_mem_lexemes h mem
  | body mem => cases eq_of_mem_lexemes h mem

end Tenancy.Sql
