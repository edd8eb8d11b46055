/-!
# Lexemes of a statement

A statement is cut into stretches of code and the parts that no substitution may touch: string
literals, quoted names, dollar-quoted bodies and comments. `lexemes` cuts, `text` joins again, and
`mapCode` applies a function to the code alone. A part without its closing mark runs to the end.

The reading functions return what they took and what is left; `lexemes` ends because what is left
gets shorter.
-/

namespace Tenancy.Sql

/-- What a stretch of a statement is. -/
inductive LexemeKind where
  | code
  | literal
  | quotedName
  | dollarQuoted
  | comment
  deriving DecidableEq, Repr

/-- A stretch of a statement. -/
structure Lexeme where
  kind : LexemeKind
  text : List Char
  deriving DecidableEq, Repr

/-- The statement that a list of lexemes spells. -/
def text (ls : List Lexeme) : List Char := ls.flatMap (·.text)

/-- An ASCII letter, an ASCII digit or an underscore. -/
def isNameChar (c : Char) : Bool := c.isAlphanum || c = '_'

/-- The apostrophe, which delimits string literals. -/
def apostrophe : Char := '\x27'

/-- Puts a character in front of what was taken. -/
def prepend (c : Char) (r : List Char × List Char) : List Char × List Char := (c :: r.1, r.2)

/-- A quoted part up to and with its closing `mark`. A doubled mark stands for itself; where
`escapes` holds, so does any character after a backslash. -/
def throughMark (mark : Char) (escapes : Bool) : List Char → List Char × List Char
  | [] => ([], [])
  | [c] => ([c], [])
  | c :: d :: cs =>
    if escapes ∧ c = '\\' then prepend c (prepend d (throughMark mark escapes cs))
    else if c = mark then
      if d = mark then prepend c (prepend d (throughMark mark escapes cs)) else ([c], d :: cs)
    else prepend c (throughMark mark escapes (d :: cs))

/-- A comment to the end of the line, which it leaves. -/
def throughLine (cs : List Char) : List Char × List Char :=
  (cs.takeWhile (· ≠ '\n'), cs.dropWhile (· ≠ '\n'))

/-- The rest of a comment in which `depth` more comments than this one are open. -/
def throughComment (depth : Nat) : List Char → List Char × List Char
  | [] => ([], [])
  | [c] => ([c], [])
  | c :: d :: cs =>
    if c = '/' ∧ d = '*' then prepend c (prepend d (throughComment (depth + 1) cs))
    else if c = '*' ∧ d = '/' then
      match depth with
      | 0 => ([c, d], cs)
      | depth + 1 => prepend c (prepend d (throughComment depth cs))
    else prepend c (throughComment depth (d :: cs))

/-- The text up to and with the first `mark`. -/
def throughText (mark : List Char) : List Char → List Char × List Char
  | [] => ([], [])
  | c :: cs =>
    if mark.isPrefixOf (c :: cs) then (mark, (c :: cs).drop mark.length)
    else prepend c (throughText mark cs)

/-- The tag between the two dollar signs that open a dollar-quoted body, and the body with what
follows it, for the text after the first sign. A tag is a name that starts with no digit, or empty. -/
def dollarTag? (cs : List Char) : Option (List Char × List Char) :=
  let tag := cs.takeWhile isNameChar
  match cs.dropWhile isNameChar with
  | '$' :: body => if tag.head?.any Char.isDigit then none else some (tag, body)
  | _ => none

/-- Whether a literal that starts after `before` (last character first) takes backslash escapes: an
`E` that ends no longer name stands right in front of it. -/
def isEscapeLiteral : List Char → Bool
  | [] => false
  | e :: before => (e = 'E' || e = 'e') && !before.head?.any isNameChar

/-- The part that is no code and starts right here, after `before` (last character first): its kind,
its text, and what follows. -/
def quotedAt? (before : List Char) : List Char → Option (LexemeKind × List Char × List Char)
  | [] => none
  | c :: cs =>
    if c = apostrophe then
      some (.literal, prepend c (throughMark apostrophe (isEscapeLiteral before) cs))
    else if c = '"' then some (.quotedName, prepend c (throughMark '"' false cs))
    else if c = '-' ∧ cs.head? = some '-' then some (.comment, prepend c (throughLine cs))
    else if c = '/' ∧ cs.head? = some '*' then
      some (.comment, prepend c (prepend '*' (throughComment 0 cs.tail)))
    else if c = '$' ∧ ¬ before.head?.any isNameChar then
      (dollarTag? cs).map fun (tag, body) =>
        let mark := '$' :: tag ++ ['$']
        let (inner, rest) := throughText mark body
        (.dollarQuoted, mark ++ inner, rest)
    else none

/-- What follows a quoted part is no longer than the text. -/
theorem length_throughMark_le (mark : Char) (escapes : Bool) (cs : List Char) :
    (throughMark mark escapes cs).2.length ≤ cs.length := by
  fun_induction throughMark mark escapes cs <;> simp_all [prepend] <;> omega

/-- Nor is what follows a comment to the end of the line. -/
theorem length_throughLine_le (cs : List Char) : (throughLine cs).2.length ≤ cs.length :=
  (List.dropWhile_sublist _).length_le

/-- Nor is what follows a comment. -/
theorem length_throughComment_le (depth : Nat) (cs : List Char) :
    (throughComment depth cs).2.length ≤ cs.length := by
  fun_induction throughComment depth cs <;> simp_all [prepend] <;> omega

/-- Nor is what follows a body. -/
theorem length_throughText_le (mark : List Char) (cs : List Char) :
    (throughText mark cs).2.length ≤ cs.length := by
  fun_induction throughText mark cs with
  | case1 => simp
  | case2 c cs _ => simp only [List.length_drop]; omega
  | case3 c cs _ ih => simp only [prepend, List.length_cons]; omega

/-- What follows a tag is shorter than the text. -/
theorem length_dollarTag_lt {cs tag body : List Char} (h : dollarTag? cs = some (tag, body)) :
    body.length < cs.length := by
  have le := (List.dropWhile_sublist (l := cs) isNameChar).length_le
  unfold dollarTag? at h
  split at h
  · next rest eq =>
    rw [eq] at le
    dsimp only at h
    split at h
    · simp at h
    · simp only [Option.some.injEq, Prod.mk.injEq] at h
      obtain ⟨-, rfl⟩ := h
      exact le
  · simp at h

/-- A part that is no code is not empty. -/
theorem length_quotedAt_lt {before cs taken rest : List Char} {kind : LexemeKind}
    (h : quotedAt? before cs = some (kind, taken, rest)) : rest.length < cs.length := by
  cases cs with
  | nil => simp [quotedAt?] at h
  | cons c cs =>
    simp only [quotedAt?] at h
    split at h
    · have := length_throughMark_le apostrophe (isEscapeLiteral before) cs
      simp only [prepend, Option.some.injEq, Prod.mk.injEq] at h
      simp only [List.length_cons, ← h.2.2]; omega
    split at h
    · have := length_throughMark_le '"' false cs
      simp only [prepend, Option.some.injEq, Prod.mk.injEq] at h
      simp only [List.length_cons, ← h.2.2]; omega
    split at h
    · have := length_throughLine_le cs
      simp only [prepend, Option.some.injEq, Prod.mk.injEq] at h
      simp only [List.length_cons, ← h.2.2]; omega
    split at h
    · have := length_throughComment_le 0 cs.tail
      simp only [prepend, Option.some.injEq, Prod.mk.injEq] at h
      simp only [List.length_cons, List.length_tail, ← h.2.2] at this ⊢; omega
    split at h
    · simp only [Option.map_eq_some_iff, Prod.exists, Prod.mk.injEq] at h
      obtain ⟨tag, body, ht, -, -, rfl⟩ := h
      have := length_dollarTag_lt ht
      have := length_throughText_le ('$' :: tag ++ ['$']) body
      simp only [List.length_cons]; omega
    · simp at h

/-- The code gathered so far, last character first, as a lexeme; no lexeme where there is none. -/
def gathered : List Char → List Lexeme
  | [] => []
  | c :: code => [⟨.code, (c :: code).reverse⟩]

/-- The lexemes of what follows `before`, when `code` was gathered since the last one; both are given
last character first. -/
def lexemesFrom (code before : List Char) : List Char → List Lexeme
  | [] => gathered code
  | c :: cs =>
    match _h : quotedAt? before (c :: cs) with
    | some (kind, taken, rest) =>
      gathered code ++ ⟨kind, taken⟩ :: lexemesFrom [] (taken.reverse ++ before) rest
    | none => lexemesFrom (c :: code) (c :: before) cs
termination_by cs => cs.length
decreasing_by
  · exact length_quotedAt_lt _h
  · simp

/-- The lexemes of a statement, in order. -/
def lexemes (sql : List Char) : List Lexeme := lexemesFrom [] [] sql

/-- The statement with `f` applied to every stretch of code. -/
def mapCode (f : List Char → List Char) (sql : List Char) : List Char :=
  (lexemes sql).flatMap fun l => if l.kind = .code then f l.text else l.text

end Tenancy.Sql
