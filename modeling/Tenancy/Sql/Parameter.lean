import Tenancy.Sql.Lexeme

/-!
# Parameters of a statement

A caller marks a parameter in code by `%s` and writes a percent sign as `%%`; the server wants `$1`,
`$2`, … from left to right. `numberParameters` goes from the one to the other, counting across the
stretches of code; a percent sign before anything else stays. `parameterCount` is how many
parameters the server expects: the highest number after a dollar sign, wherever it stands.
-/

namespace Tenancy.Sql

/-- A stretch of code with its parameters numbered, `n` having been numbered before it, and how many
are numbered after it. -/
def numberCode (n : Nat) : List Char → List Char × Nat
  | [] => ([], n)
  | [c] => ([c], n)
  | c :: d :: cs =>
    if c = '%' ∧ d = 's' then
      let (out, m) := numberCode (n + 1) cs
      ('$' :: Nat.toDigits 10 (n + 1) ++ out, m)
    else if c = '%' ∧ d = '%' then
      let (out, m) := numberCode n cs
      ('%' :: out, m)
    else
      let (out, m) := numberCode n (d :: cs)
      (c :: out, m)

/-- The text of a list of lexemes with the parameters of its code numbered after the first `n`. -/
def numberLexemes (n : Nat) : List Lexeme → List Char
  | [] => []
  | l :: ls =>
    if l.kind = .code then
      let (out, m) := numberCode n l.text
      out ++ numberLexemes m ls
    else l.text ++ numberLexemes n ls

/-- The statement with its parameters numbered from one. -/
def numberParameters (sql : List Char) : List Char := numberLexemes 0 (lexemes sql)

/-- The highest parameter number in a text, `best` having been seen before. -/
def highestParameter (best : Nat) : List Char → Nat
  | [] => best
  | c :: cs =>
    if c = '$' then
      let digits := cs.takeWhile Char.isDigit
      highestParameter (max best (digits.foldl (fun n d => n * 10 + (d.toNat - '0'.toNat)) 0)) cs
    else highestParameter best cs

/-- How many parameters a statement takes. -/
def parameterCount (sql : String) : Nat := highestParameter 0 sql.toList

end Tenancy.Sql
