import Tenancy.Proofs.Expression.Document
import Tenancy.Sql.Lexeme

/-!
# Expressions and how the server reads them

The part of the server's expressions that computations of columns are written in, with the precedence that
the server gives to their parts: casts bind closest, then a minus sign, the operators of documents and of
patterns, `BETWEEN`, equality and `AND`. `Expression.read?` reads a text as an expression; what it cannot
read is not in this part.

A text is cut into tokens from left to right (`run`). A piece of it that ends where a token has ended is cut
the same way wherever it stands (`Scans.append`).
-/

namespace Tenancy
open Text Sql

namespace Expression

/-! ## Tokens -/

/-- The words with a meaning of their own: `CASE`, `WHEN`, `THEN`, `END`, `AND` and `BETWEEN`. -/
inductive Keyword where
  | case
  | when
  | gives
  | finish
  | and
  | between
  deriving DecidableEq, Repr

/-- The operators `#>`, `#>>`, `~`, `=`, `-` and `::`. -/
inductive Operator where
  | value
  | text
  | like
  | equal
  | minus
  | cast
  deriving DecidableEq, Repr

/-- A token of an expression. -/
inductive Token where
  | keyword (k : Keyword)
  | name (s : String)
  | literal (s : String)
  | number (n : Nat)
  | operator (o : Operator)
  | opened
  | closed
  deriving DecidableEq, Repr

namespace Token

/-- How keywords are spelled, in small letters. -/
def keywords : List (List Char × Keyword) :=
  [(['c', 'a', 's', 'e'], .case), (['w', 'h', 'e', 'n'], .when), (['t', 'h', 'e', 'n'], .gives),
    (['e', 'n', 'd'], .finish), (['a', 'n', 'd'], .and), (['b', 'e', 't', 'w', 'e', 'e', 'n'], .between)]

/-- How operators are spelled. -/
def operators : List (List Char × Operator) :=
  [(['#', '>'], .value), (['#', '>', '>'], .text), (['~'], .like), (['='], .equal), (['-'], .minus),
    ([':', ':'], .cast)]

/-- A character of a word; names may have points between their parts. -/
def isWordChar (c : Char) : Bool := isNameChar c || c = '.'

/-- A character of an operator. -/
def isSign (c : Char) : Bool := c ∈ ['#', '>', '~', '=', '-', ':']

/-- The token that a word is: a number if it starts with a digit, a keyword or a name. -/
def ofWord? (cs : List Char) : Option Token :=
  if cs.head?.any Char.isDigit then (readDigits? cs).map .number
  else match keywords.lookup (cs.map Char.toLower) with
    | some k => some (.keyword k)
    | none => some (.name (String.ofList cs))

/-- What has been read of a token that may go on, with its characters in reverse. -/
inductive Pending where
  | nothing
  | word (before : List Char)
  | sign (before : List Char)
  /-- A literal up to before its closing mark. -/
  | quoted (before : List Char)
  /-- A literal that is closed, unless another mark follows. -/
  | unquoted (before : List Char)
  deriving DecidableEq

/-- The token that ends. -/
def Pending.finish : Pending → Option (List Token)
  | .nothing => some []
  | .word cs => (ofWord? cs.reverse).map ([·])
  | .sign cs => (operators.lookup cs.reverse).map fun o => [.operator o]
  | .quoted _ => none
  | .unquoted cs => some [.literal (String.ofList cs.reverse)]

/-- The token that a character starts. -/
def start (c : Char) : Option (List Token × Pending) :=
  if c = ' ' then some ([], .nothing)
  else if c = '(' then some ([.opened], .nothing)
  else if c = ')' then some ([.closed], .nothing)
  else if c = apostrophe then some ([], .quoted [])
  else if isWordChar c then some ([], .word [c])
  else if isSign c then some ([], .sign [c])
  else none

/-- Ends a token and starts another one. -/
def Pending.turn (p : Pending) (c : Char) : Option (List Token × Pending) := do
  let ended ← p.finish
  let (ts, q) ← start c
  return (ended ++ ts, q)

/-- Reads a character: the tokens that end with it, and what goes on. -/
def Pending.step (p : Pending) (c : Char) : Option (List Token × Pending) :=
  match p with
  | .word cs => if isWordChar c then some ([], .word (c :: cs)) else p.turn c
  | .sign cs => if isSign c then some ([], .sign (c :: cs)) else p.turn c
  | .quoted cs => some ([], if c = apostrophe then .unquoted cs else .quoted (c :: cs))
  | .unquoted cs => if c = apostrophe then some ([], .quoted (c :: cs)) else p.turn c
  | .nothing => p.turn c

/-- Reads characters one after the other. -/
def run (p : Pending) : List Char → Option (List Token × Pending)
  | [] => some ([], p)
  | c :: cs => do
    let (ts, q) ← p.step c
    let (us, r) ← run q cs
    return (ts ++ us, r)

/-- The tokens of a text; a blank at its end closes the last one. -/
def tokens? (text : String) : Option (List Token) :=
  match run .nothing (text.toList ++ [' ']) with
  | some (ts, .nothing) => some ts
  | _ => none

/-- A character gives its tokens, and then come those of the others. -/
lemma run_cons {p q : Pending} {c : Char} {ts : List Token} (step : p.step c = some (ts, q))
    (cs : List Char) : run p (c :: cs) = (run q cs).map fun s => (ts ++ s.1, s.2) := by
  rw [run, step]
  change ((run q cs).bind fun s => some (ts ++ s.1, s.2)) = _
  cases run q cs with
  | none => rfl
  | some => rfl

/-- A character without tokens only changes what is pending. -/
lemma run_silent {p q : Pending} {c : Char} (step : p.step c = some ([], q)) (cs : List Char) :
    run p (c :: cs) = run q cs :=
  (run_cons step cs).trans Option.map_id'

/-- Two texts give their tokens one after the other. -/
lemma run_append (p : Pending) (cs ds : List Char) :
    run p (cs ++ ds) = (run p cs).bind fun r => (run r.2 ds).map fun s => (r.1 ++ s.1, s.2) := by
  induction cs generalizing p with
  | nil => simp [run]
  | cons c cs ih =>
    cases step : p.step c with
    | none =>
      rw [List.cons_append, run, run, step]
      rfl
    | some r =>
      rw [List.cons_append, run_cons step, run_cons step, ih]
      cases run r.2 cs with
      | none => rfl
      | some s =>
        rw [Option.bind_some, Option.map_some, Option.bind_some, Option.map_map]
        simp only [Function.comp_def, List.append_assoc]

/-- Whether a piece of a text is cut into some tokens and ends with the last of them. -/
def Scans (cs : List Char) (ts : List Token) : Prop := run .nothing cs = some (ts, .nothing)

instance (cs : List Char) (ts : List Token) : Decidable (Scans cs ts) :=
  inferInstanceAs (Decidable (_ = _))

/-- So do two texts that leave nothing pending. -/
lemma Scans.append {cs ds : List Char} {ts us : List Token} (first : Scans cs ts) (second : Scans ds us) :
    Scans (cs ++ ds) (ts ++ us) := by
  rw [Scans, run_append, show run .nothing cs = _ from first]
  change (run .nothing ds).map _ = _
  rw [show run .nothing ds = _ from second]
  rfl

/-- A text that leaves nothing pending before a blank has these tokens. -/
lemma tokens?_of_scans {text : String} {ts : List Token} (h : Scans (text.toList ++ [' ']) ts) :
    tokens? text = some ts := by
  rw [tokens?, show run .nothing (text.toList ++ [' ']) = _ from h]

/-- A token takes the characters that do not end it. -/
lemma run_takes {p : List Char → Pending} {q : Char → Bool}
    (takes : ∀ before c, q c → (p before).step c = some ([], p (c :: before))) {cs : List Char}
    (all : cs.all q) (before : List Char) : run (p before) cs = some ([], p (cs.reverse ++ before)) := by
  induction cs generalizing before with
  | nil => rfl
  | cons c cs ih =>
    rw [List.all_cons, Bool.and_eq_true] at all
    rw [run_silent (takes before c all.1), ih all.2, List.reverse_cons, List.append_assoc]
    rfl

/-- A word goes on with a character of words. -/
lemma takes_word (before : List Char) (c : Char) (word : isWordChar c) :
    Pending.step (.word before) c = some ([], .word (c :: before)) :=
  if_pos word

/-- An operator goes on with a sign. -/
lemma takes_sign (before : List Char) (c : Char) (sign : isSign c) :
    Pending.step (.sign before) c = some ([], .sign (c :: before)) :=
  if_pos sign

/-- A text goes on up to the mark. -/
lemma takes_quoted (before : List Char) (c : Char) (other : decide (c ≠ apostrophe)) :
    Pending.step (.quoted before) c = some ([], .quoted (c :: before)) := by
  rw [Pending.step, if_neg (of_decide_eq_true other)]

/-- A character of words starts a word. -/
lemma start_word {c : Char} (word : isWordChar c) : start c = some ([], .word [c]) := by
  have ne {d : Char} (other : isWordChar d = false) : c ≠ d := by
    rintro rfl
    cases word.symm.trans other
  rw [start, if_neg (ne (by decide)), if_neg (ne (by decide)), if_neg (ne (by decide)),
    if_neg (ne (by decide)), if_pos word]

/-- So it does where nothing is pending. -/
lemma step_word {c : Char} (word : isWordChar c) : Pending.step .nothing c = some ([], .word [c]) := by
  rw [Pending.step, Pending.turn, start_word word]
  rfl

/-- A word and a blank behind it. -/
lemma scans_word {cs : List Char} {t : Token} (word : cs.all isWordChar) (token : ofWord? cs = some t)
    (some : cs ≠ []) : Scans (cs ++ [' ']) [t] := by
  obtain ⟨c, cs, rfl⟩ := List.exists_cons_of_ne_nil some
  rw [List.all_cons, Bool.and_eq_true] at word
  have first : run .nothing (c :: cs) = Option.some ([], .word (c :: cs).reverse) := by
    rw [run_silent (step_word word.1), run_takes takes_word word.2, List.reverse_cons]
  have last : Pending.step (.word (c :: cs).reverse) ' ' = Option.some ([t], .nothing) := by
    have finish : Pending.finish (.word (c :: cs).reverse) = Option.some [t] := by
      rw [Pending.finish, List.reverse_reverse, token]
      rfl
    rw [Pending.step, if_neg (by decide), Pending.turn, finish]
    rfl
  rw [Scans, run_append, first, Option.bind_some, run_cons last]
  rfl

/-- An operator in front of a word. -/
lemma Scans.behind {c : Char} {cs signs : List Char} {ts : List Token} {o : Operator}
    (h : Scans (c :: cs) ts) (word : isWordChar c) (all : signs.all isSign)
    (operator : operators.lookup signs = some o) (some : signs ≠ []) :
    Scans (signs ++ c :: cs) (.operator o :: ts) := by
  obtain ⟨d, signs, rfl⟩ := List.exists_cons_of_ne_nil some
  rw [List.all_cons, Bool.and_eq_true] at all
  have none : ∀ d ∈ ['#', '>', '~', '=', '-', ':'],
      isWordChar d = false ∧ Pending.step .nothing d = Option.some ([], .sign [d]) := by
    simp only [List.forall_mem_cons]
    exact ⟨by decide, by decide, by decide, by decide, by decide, by decide, by simp⟩
  have first : run .nothing (d :: signs) = Option.some ([], .sign (d :: signs).reverse) := by
    rw [run_silent (none d (of_decide_eq_true all.1)).2, run_takes takes_sign all.2,
      List.reverse_cons]
  have turn : Pending.step (.sign (d :: signs).reverse) c = Option.some ([.operator o], .word [c]) := by
    have other : ¬ isSign c := by
      intro sign
      cases word.symm.trans (none c (of_decide_eq_true sign)).1
    have finish : Pending.finish (.sign (d :: signs).reverse) = Option.some [.operator o] := by
      rw [Pending.finish, List.reverse_reverse, operator]
      rfl
    rw [Pending.step, if_neg other, Pending.turn, finish, start_word word]
    rfl
  rw [Scans, run_silent (step_word word)] at h
  rw [Scans, run_append, first, Option.bind_some, run_cons turn, h]
  rfl

/-- A literal in which no mark stands, and a character behind it that is a token or a blank. -/
lemma scans_literal {cs : List Char} {c : Char} {ts : List Token} (quiet : apostrophe ∉ cs)
    (ends : start c = some (ts, .nothing)) :
    Scans (apostrophe :: (cs ++ [apostrophe, c])) (.literal (String.ofList cs) :: ts) := by
  have opens : Pending.step .nothing apostrophe = some ([], .quoted []) := by decide
  have closes : Pending.step (.quoted cs.reverse) apostrophe = some ([], .unquoted cs.reverse) := by
    rw [Pending.step, if_pos rfl]
  have turn : Pending.step (.unquoted cs.reverse) c =
      some (.literal (String.ofList cs) :: ts, .nothing) := by
    have other : c ≠ apostrophe := by
      rintro rfl
      cases ends
    rw [Pending.step, if_neg other, Pending.turn, Pending.finish, List.reverse_reverse, ends]
    rfl
  have inside : run (.quoted []) cs = some ([], .quoted cs.reverse) := by
    have all : cs.all (· ≠ apostrophe) := List.all_eq_true.2 fun c mem => by
      apply decide_eq_true
      rintro rfl
      exact quiet mem
    rw [run_takes takes_quoted all, List.append_nil]
  rw [Scans, run_silent opens, run_append, inside, Option.bind_some, run_silent closes, run_cons turn]
  change some ([] ++ (.literal (String.ofList cs) :: ts ++ []), Pending.nothing) = _
  rw [List.append_nil, List.nil_append]

/-- Whether a text is a reference to a column: names with points between them, the first of which starts with
no digit, and no keyword. -/
def IsReference (s : String) : Prop :=
  s.toList ≠ [] ∧ s.toList.all isWordChar ∧ ofWord? s.toList = some (.name s)

instance (s : String) : Decidable (IsReference s) := inferInstanceAs (Decidable (_ ∧ _ ∧ _))

/-- A reference is one token. -/
lemma IsReference.scans {s : String} (h : IsReference s) : Scans (s.toList ++ [' ']) [.name s] :=
  scans_word h.2.1 h.2.2 h.1

/-- So it is behind an operator. -/
lemma IsReference.behind {s : String} (h : IsReference s) {signs : List Char} {o : Operator}
    (all : signs.all isSign) (operator : operators.lookup signs = some o) (some : signs ≠ []) :
    Scans (signs ++ (s.toList ++ [' '])) [.operator o, .name s] := by
  obtain ⟨c, cs, eq⟩ := List.exists_cons_of_ne_nil h.1
  have word := h.2.1
  have scans := h.scans
  rw [eq] at word scans ⊢
  rw [List.all_cons, Bool.and_eq_true] at word
  exact scans.behind word.1 all operator some

/-- The tokens of a whole number. -/
def ofInt (n : Int) : List Token :=
  if n < 0 then [.operator .minus, .number n.natAbs] else [.number n.natAbs]

/-- The numeral of a whole number gives its tokens. -/
lemma scans_toString (n : Int) : Scans ((toString n).toList ++ [' ']) (ofInt n) := by
  have digits : ∀ c ∈ Nat.toDigits 10 n.natAbs, c.isDigit := List.all_eq_true.1 (all_isDigit_toDigits _)
  have word : ∀ c ∈ Nat.toDigits 10 n.natAbs, isWordChar c := fun c mem => by
    simp [isWordChar, isNameChar, Char.isAlphanum, digits c mem]
  obtain ⟨c, cs, eq⟩ := List.exists_cons_of_ne_nil (Nat.toDigits_ne_nil (b := 10) (n := n.natAbs))
  have number : Scans (Nat.toDigits 10 n.natAbs ++ [' ']) [.number n.natAbs] := by
    apply scans_word (List.all_eq_true.2 word) _ Nat.toDigits_ne_nil
    have first : (Nat.toDigits 10 n.natAbs).head?.any Char.isDigit := by
      rw [eq] at digits ⊢
      exact digits c List.mem_cons_self
    rw [ofWord?, if_pos first, readDigits?_toDigits]
    rfl
  rw [toList_toString, ofInt]
  by_cases negative : n < 0
  · rw [if_pos negative, if_pos negative]
    rw [eq] at number word ⊢
    show Scans (['-'] ++ c :: (cs ++ [' '])) _
    exact number.behind (word c List.mem_cons_self) (by decide) rfl (by simp)
  · rw [if_neg negative, if_neg negative, List.nil_append]
    exact number

end Token

end Expression

/-! ## Expressions -/

/-- An expression. -/
inductive Expression where
  | column (name : String)
  | literal (text : String)
  | number (n : Nat)
  | call (function : String) (argument : Expression)
  /-- What the second expression says, if the first one holds. -/
  | given (condition result : Expression)
  | cast (e : Expression) (type : String)
  | negated (e : Expression)
  | binary (o : Expression.Operator) (left right : Expression)
  | between (e low high : Expression)
  | both (left right : Expression)
  deriving DecidableEq, Repr

namespace Expression

/-- Reads an expression at the start of some tokens, and leaves the rest. -/
abbrev Reader := List Token → Option (Expression × List Token)

/-- Reads an expression and the token behind it. -/
def upTo (t : Token) (read : Reader) : Reader := fun ts => do
  let (e, rest) ← read ts
  match rest with
  | [] => none
  | u :: rest => if u = t then return (e, rest) else none

/-- Reads an expression that is one word, or one between parentheses or keywords. -/
def primary (inner : Reader) : Reader
  | .name f :: .opened :: ts => (upTo .closed inner ts).map fun r => (.call f r.1, r.2)
  | .name n :: ts => some (.column n, ts)
  | .literal s :: ts => some (.literal s, ts)
  | .number n :: ts => some (.number n, ts)
  | .opened :: ts => upTo .closed inner ts
  | .keyword .case :: .keyword .when :: ts => do
    let (condition, rest) ← upTo (.keyword .gives) inner ts
    let (result, rest) ← upTo (.keyword .finish) inner rest
    return (.given condition result, rest)
  | _ => none

/-- Reads the casts behind an expression. -/
def casts (e : Expression) : List Token → Expression × List Token
  | .operator .cast :: .name type :: ts => casts (.cast e type) ts
  | ts => (e, ts)

/-- Reads an expression with casts behind it and minus signs in front. -/
def signed (inner : Reader) : Reader
  | .operator .minus :: ts => (signed inner ts).map fun r => (.negated r.1, r.2)
  | ts => (primary inner ts).map fun r => casts r.1 r.2

/-- Reads expressions with joints between them, from the left; `fuel` bounds how many. -/
def chain (operand : Reader) (joint? : Token → Option (Expression → Expression → Expression)) :
    Nat → Expression → Reader
  | 0, _, _ => none
  | _, left, [] => some (left, [])
  | fuel + 1, left, t :: ts =>
    match joint? t with
    | none => some (left, t :: ts)
    | some join => do
      let (right, rest) ← operand ts
      chain operand joint? fuel (join left right) rest

/-- The operators that bind closer than `BETWEEN`. -/
def close? : Token → Option (Expression → Expression → Expression)
  | .operator .value => some (.binary .value)
  | .operator .text => some (.binary .text)
  | .operator .like => some (.binary .like)
  | _ => none

def and? : Token → Option (Expression → Expression → Expression)
  | .keyword .and => some .both
  | _ => none

/-- Reads an expression, perhaps with its bounds. -/
def bounded (operand : Reader) : Reader := fun ts => do
  let (e, rest) ← operand ts
  match rest with
  | .keyword .between :: rest =>
    let (low, rest) ← upTo (.keyword .and) operand rest
    let (high, rest) ← operand rest
    return (.between e low high, rest)
  | rest => return (e, rest)

/-- Reads an expression, perhaps with what it is to equal. -/
def equated (operand : Reader) : Reader := fun ts => do
  let (left, rest) ← operand ts
  match rest with
  | .operator .equal :: rest =>
    let (right, rest) ← operand rest
    return (.binary .equal left right, rest)
  | rest => return (left, rest)

/-- Reads an expression in which at most so many expressions stand in each other. -/
def parse : Nat → Reader
  | 0 => fun _ => none
  | depth + 1 => fun ts =>
    let operand : Reader := fun ts => do
      let (left, rest) ← signed (parse depth) ts
      chain (signed (parse depth)) close? ts.length left rest
    let condition := equated (bounded operand)
    do
      let (left, rest) ← condition ts
      chain condition and? ts.length left rest

/-- Reads a text as an expression. -/
def read? (text : String) : Option Expression := do
  let ts ← Token.tokens? text
  match ← parse ts.length ts with
  | (e, []) => return e
  | _ => none

end Expression
end Tenancy
