import Tenancy.Sql.Parameter
import Tenancy.Text.Case
import Tenancy.Text.Word

/-!
# Rules for legacy statements

Statements arrive in a legacy dialect and leave in the server's. A rule changes the code of a
statement and nothing else; the rules of a list act one after the other on each stretch of code.
`legacyRules` are the four for the legacy dialect: `?` marks a parameter, `REGEXP` matches a pattern,
`LIMIT a, b` skips `a` rows and takes `b`, and `BLOB` is the type of bytes in a definition.

A rule never fails: what it does not recognise it leaves as it is.
-/

namespace Tenancy.Sql
open Tenancy.Text

/-- A rule, told whether the statement defines schema objects. -/
structure Rule where
  name : String
  apply : (definition : Bool) → List Char → List Char

/-! ## Finding and substituting -/

/-- A place where a pattern matches: how many characters it takes and what replaces them. -/
structure Match where
  length : Nat
  text : List Char

/-- Replaces the leftmost matches of a pattern one after the other. The pattern is told the character
before the place it looks at; a match takes at least one character. -/
def substitute (find : Option Char → List Char → Option Match) (before : Option Char) :
    List Char → List Char
  | [] => []
  | c :: cs =>
    match find before (c :: cs) with
    | none => c :: substitute find (some c) cs
    | some m =>
      m.text ++ substitute find ((c :: cs)[m.length - 1]?) (cs.drop (m.length - 1))
termination_by cs => cs.length
decreasing_by
  · simp
  · simp only [List.length_drop, List.length_cons]; omega

/-- Replaces every occurrence of `old`, from the left; an empty `old` occurs between any two
characters and at both ends. -/
def replaceText (old new : List Char) : List Char → List Char
  | [] => if old.isEmpty then new else []
  | c :: cs =>
    if old.isEmpty then new ++ c :: replaceText old new cs
    else if old.isPrefixOf (c :: cs) then new ++ replaceText old new (cs.drop (old.length - 1))
    else c :: replaceText old new cs
termination_by cs => cs.length
decreasing_by
  · simp
  · simp only [List.length_drop, List.length_cons]; omega
  · simp

/-- A match that spans the text from `cs` to `rest`. -/
def Match.upTo (cs rest : List Char) (new : List Char) : Match := ⟨cs.length - rest.length, new⟩

/-- What follows `word` at the head of a text, when `word` starts a word there. -/
def afterWord? (word : String) (before : Option Char) (cs : List Char) : Option (List Char) :=
  if boundary before cs.head? then afterFolded? word.toList cs else none

/-- Whether a word ends between the text that leads from `cs` to `rest` and `rest`. -/
def endsWord (cs rest : List Char) : Bool :=
  boundary (cs[cs.length - rest.length - 1]?) rest.head?

/-- What follows one or more blanks. -/
def afterBlanks? (cs : List Char) : Option (List Char) :=
  if cs.head?.any isBlank then some (trimStart cs) else none

/-- Matches a whole word in any case. -/
def findWord (word : String) (new : String) (before : Option Char) (cs : List Char) :
    Option Match := do
  let rest ← afterWord? word before cs
  if endsWord cs rest then some (Match.upTo cs rest new.toList) else none

/-! ## The rules -/

/-- Every `?` becomes the parameter mark `%s`. -/
def placeholderRule : Rule where
  name := "placeholders"
  apply _ := replaceText ['?'] ['%', 's']

/-- Matches `NOT REGEXP`. -/
def findNotRegexp (before : Option Char) (cs : List Char) : Option Match := do
  let gap ← afterWord? "NOT" before cs
  let word ← afterBlanks? gap
  let rest ← afterFolded? "REGEXP".toList word
  if endsWord cs rest then some (Match.upTo cs rest "!~".toList) else none

/-- `NOT REGEXP` becomes `!~` and any other `REGEXP` becomes `~`. -/
def regexpRule : Rule where
  name := "regexp_operator"
  apply _ code := substitute (findWord "REGEXP" "~") none (substitute findNotRegexp none code)

/-- A count in a `LIMIT` clause, digits or a parameter mark, and what follows it. -/
def operand? (cs : List Char) : Option (List Char × List Char) :=
  match cs.takeWhile isDecimal with
  | [] => (afterFolded? ['%', 's'] cs).map fun rest => (cs.take 2, rest)
  | digits => some (digits, cs.dropWhile isDecimal)

/-- Matches `LIMIT a, b`. The two counts change places, unless one is a parameter: then the clauses
do, so that the parameters stay in order. -/
def findLimitPair (before : Option Char) (cs : List Char) : Option Match := do
  let gap ← afterWord? "LIMIT" before cs
  let (skip, afterSkip) ← operand? (← afterBlanks? gap)
  match trimStart afterSkip with
  | ',' :: afterComma =>
    let (take, rest) ← operand? (trimStart afterComma)
    let new :=
      if skip = ['%', 's'] ∨ take = ['%', 's'] then
        "OFFSET ".toList ++ skip ++ " LIMIT ".toList ++ take
      else "LIMIT ".toList ++ take ++ " OFFSET ".toList ++ skip
    some (Match.upTo cs rest new)
  | _ => none

/-- Matches `LIMIT -1`. -/
def findNoLimit (before : Option Char) (cs : List Char) : Option Match := do
  let gap ← afterWord? "LIMIT" before cs
  match (← afterBlanks? gap) with
  | '-' :: '1' :: rest =>
    if boundary (some '1') rest.head? then some (Match.upTo cs rest "LIMIT ALL".toList) else none
  | _ => none

/-- `LIMIT a, b` becomes a pair of clauses and `LIMIT -1` becomes `LIMIT ALL`. -/
def paginationRule : Rule where
  name := "limit_offset"
  apply _ code := substitute findNoLimit none (substitute findLimitPair none code)

/-- In a definition, the type `BLOB` becomes `BYTEA`. -/
def bytesRule : Rule where
  name := "blob_type"
  apply definition code :=
    if definition then substitute (findWord "BLOB" "BYTEA") none code else code

/-- The rules for the legacy dialect, in the order in which they act. -/
def legacyRules : List Rule := [placeholderRule, regexpRule, paginationRule, bytesRule]

/-- A rule that replaces one text by another, perhaps in definitions alone. -/
def substitutionRule (name : String) (old new : List Char) (definitionsOnly : Bool) : Rule where
  name := name
  apply definition code := if definitionsOnly && !definition then code else replaceText old new code

/-! ## Whole statements -/

/-- Whether a statement defines schema objects: its first code that is not blank starts with `CREATE`
or `ALTER`. -/
def isDefinition (sql : List Char) : Bool :=
  let head := ((lexemes sql).filter fun l => l.kind = .code && !(trimStart l.text).isEmpty).head?
  match head with
  | none => false
  | some l =>
    let words := (trimStart l.text).map Char.toUpper
    "CREATE".toList.isPrefixOf words || "ALTER".toList.isPrefixOf words

/-- The statement after a list of rules has acted on its code. -/
def adapt (rules : List Rule) (sql : List Char) : List Char :=
  let definition := isDefinition sql
  mapCode (fun code => rules.foldl (fun code rule => rule.apply definition code) code) sql

/-- The text that goes to the server. -/
def forServer (rules : List Rule) (sql : List Char) : List Char :=
  numberParameters (adapt rules sql)

end Tenancy.Sql
