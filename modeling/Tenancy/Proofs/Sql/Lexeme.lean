import Mathlib.Tactic.Lemma
import Tenancy.Sql.Lexeme

/-!
# Lexemes spell the statement

Cutting a statement into lexemes loses nothing: `text_lexemes` joins them again. Most characters can
open nothing but code; `lexemesFrom_append` reads a stretch of such characters at once, and
`lexemes_append` is what that says of a statement that starts with one.
-/

namespace Tenancy.Sql

/-- A quoted part and what follows it make the text. -/
lemma throughMark_append (mark : Char) (escapes : Bool) (cs : List Char) :
    (throughMark mark escapes cs).1 ++ (throughMark mark escapes cs).2 = cs := by
  fun_induction throughMark mark escapes cs <;> simp_all [prepend]

/-- So do a comment to the end of the line and the rest. -/
lemma throughLine_append (cs : List Char) : (throughLine cs).1 ++ (throughLine cs).2 = cs :=
  List.takeWhile_append_dropWhile

/-- So do a comment and what follows it. -/
lemma throughComment_append (depth : Nat) (cs : List Char) :
    (throughComment depth cs).1 ++ (throughComment depth cs).2 = cs := by
  fun_induction throughComment depth cs <;> simp_all [prepend]

/-- So do a body and what follows it. -/
lemma throughText_append (mark cs : List Char) :
    (throughText mark cs).1 ++ (throughText mark cs).2 = cs := by
  fun_induction throughText mark cs with
  | case1 => rfl
  | case2 c cs h =>
    obtain ⟨rest, eq⟩ := List.isPrefixOf_iff_prefix.1 h
    rw [← eq, List.drop_left]
  | case3 c cs h ih => exact congrArg (c :: ·) ih

/-- A tag is followed by a dollar sign, and then comes the body. -/
lemma dollarTag_append {cs tag body : List Char} (h : dollarTag? cs = some (tag, body)) :
    tag ++ '$' :: body = cs := by
  unfold dollarTag? at h
  split at h
  · next rest eq =>
    dsimp only at h
    split at h
    · cases h
    · cases h
      rw [← eq, List.takeWhile_append_dropWhile]
  · cases h

/-- A part that is no code is cut off from the head of the text. -/
lemma quotedAt_append {before cs taken rest : List Char} {kind : LexemeKind}
    (h : quotedAt? before cs = some (kind, taken, rest)) : taken ++ rest = cs ∧ kind ≠ .code := by
  cases cs with
  | nil => cases h
  | cons c cs =>
    simp only [quotedAt?] at h
    split at h
    · cases h
      exact ⟨congrArg (c :: ·) (throughMark_append _ _ cs), by simp⟩
    split at h
    · cases h
      exact ⟨congrArg (c :: ·) (throughMark_append _ _ cs), by simp⟩
    split at h
    · cases h
      exact ⟨congrArg (c :: ·) (throughLine_append cs), by simp⟩
    split at h
    · next eq =>
      cases h
      obtain ⟨rest, rfl⟩ := List.head?_eq_some_iff.1 eq.2
      exact ⟨congrArg (c :: '*' :: ·) (throughComment_append 0 rest), by simp⟩
    split at h
    · next eq =>
      obtain ⟨⟨tag, body⟩, found, eq'⟩ := Option.map_eq_some_iff.1 h
      cases eq'
      rw [← dollarTag_append found, eq.1]
      refine ⟨?_, by simp⟩
      simp only [List.cons_append, List.append_assoc, List.nil_append, throughText_append]
    · cases h

/-- A quotation that starts at a character is the next lexeme after the code, and any other character is
gathered. -/
lemma lexemesFrom_cons (code before : List Char) (c : Char) (cs : List Char) :
    lexemesFrom code before (c :: cs) =
      match quotedAt? before (c :: cs) with
      | some (kind, taken, rest) =>
        gathered code ++ ⟨kind, taken⟩ :: lexemesFrom [] (taken.reverse ++ before) rest
      | none => lexemesFrom (c :: code) (c :: before) cs := by
  rw [lexemesFrom]
  split <;> simp_all

/-- Lexemes spell one after the other. -/
lemma text_append (ls ms : List Lexeme) : text (ls ++ ms) = text ls ++ text ms :=
  List.flatMap_append

/-- The code that was gathered is spelled in order. -/
lemma text_gathered (code : List Char) : text (gathered code) = code.reverse := by
  cases code <;> simp [gathered, text]

/-- The lexemes spell the code that was gathered and what follows it. -/
lemma text_lexemesFrom (code before cs : List Char) :
    text (lexemesFrom code before cs) = code.reverse ++ cs := by
  fun_induction lexemesFrom code before cs with
  | case1 code before => rw [text_gathered, List.append_nil]
  | case2 code before c cs kind taken rest found ih =>
    rw [text_append, text_gathered, ← (quotedAt_append found).1]
    exact congrArg (code.reverse ++ ·) (congrArg (taken ++ ·) ih)
  | case3 code before c cs _ ih => rw [ih, List.reverse_cons, List.append_assoc]; rfl

/-- Cutting a statement into lexemes loses nothing. -/
theorem text_lexemes (sql : List Char) : text (lexemes sql) = sql := text_lexemesFrom [] [] sql

/-- A character that opens no literal, no quoted name, no dollar-quoted body and no comment. -/
def isBare (c : Char) : Bool := !(['\x27', '"', '-', '/', '$'].contains c)

/-- Nothing is quoted at a character that opens nothing. -/
lemma quotedAt_of_isBare {c : Char} (h : isBare c) (before cs : List Char) :
    quotedAt? before (c :: cs) = none := by
  simp only [isBare, List.contains_eq_mem, List.mem_cons, List.not_mem_nil, or_false, not_or,
    Bool.not_eq_true', decide_eq_false_iff_not] at h
  obtain ⟨quote, mark, dash, slash, dollar⟩ := h
  simp [quotedAt?, apostrophe, quote, mark, dash, slash, dollar]

/-- Characters that open nothing are gathered. -/
lemma lexemesFrom_append {cs : List Char} (h : cs.all isBare) (code before rest : List Char) :
    lexemesFrom code before (cs ++ rest) =
      lexemesFrom (cs.reverse ++ code) (cs.reverse ++ before) rest := by
  induction cs generalizing code before with
  | nil => rfl
  | cons c cs ih =>
    obtain ⟨head, tail⟩ := Bool.and_eq_true_iff.1 h
    rw [List.cons_append, lexemesFrom_cons, quotedAt_of_isBare head]
    simp [ih tail]

/-- Code is one lexeme. -/
lemma gathered_of_ne_nil {code : List Char} (h : code ≠ []) : gathered code = [⟨.code, code.reverse⟩] := by
  cases code with
  | nil => exact absurd rfl h
  | cons c code => rfl

/-- A stretch of code that was gathered is one lexeme. -/
lemma gathered_reverse {cs : List Char} (h : cs ≠ []) : gathered cs.reverse = [⟨.code, cs⟩] := by
  rw [gathered_of_ne_nil (by simpa using h), List.reverse_reverse]

/-- Code that was gathered starts the first lexeme. -/
lemma lexemesFrom_gathered {code : List Char} (h : code ≠ []) (before cs : List Char) :
    ∃ more ls, lexemesFrom code before cs = ⟨.code, code.reverse ++ more⟩ :: ls := by
  induction cs generalizing code before with
  | nil => exact ⟨[], [], by rw [lexemesFrom, gathered_of_ne_nil h, List.append_nil]⟩
  | cons c cs ih =>
    rw [lexemesFrom_cons]
    rcases quotedAt? before (c :: cs) with _ | ⟨kind, taken, rest⟩
    · obtain ⟨more, ls, eq⟩ := ih (List.cons_ne_nil c code) (c :: before)
      exact ⟨c :: more, ls, by simpa using eq⟩
    · exact ⟨[], _, by rw [gathered_of_ne_nil h, List.append_nil]; rfl⟩

/-- A statement that starts with bare characters starts with code. -/
lemma lexemes_append {cs : List Char} (bare : cs.all isBare) (h : cs ≠ []) (rest : List Char) :
    ∃ more ls, lexemes (cs ++ rest) = ⟨.code, cs ++ more⟩ :: ls := by
  rw [lexemes, lexemesFrom_append bare, List.append_nil]
  simpa using lexemesFrom_gathered (List.reverse_ne_nil_iff.2 h) cs.reverse rest

/-- A text that opens nothing is one lexeme. -/
lemma lexemes_eq_code {cs : List Char} (bare : cs.all isBare) (h : cs ≠ []) :
    lexemes cs = [⟨.code, cs⟩] := by
  have split := lexemesFrom_append bare [] [] []
  rw [List.append_nil] at split
  rw [lexemes, split, List.append_nil, lexemesFrom, gathered_reverse h]

end Tenancy.Sql
