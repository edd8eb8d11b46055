import Tenancy.Proofs.Expression.Reading
import Tenancy.Proofs.Schema.Derivation

/-!
# The expressions that compute columns

The text that computes a column is read as an expression (`read?_sql`): it is cut into tokens piece by piece,
along the computation that it is the text of (`scans_derivation`), and the tokens are read as the expression
that `ColumnType.computation` gives for the type of the column.
-/

namespace Tenancy.Schema
open Text Expression

/-! ## Tokens -/

/-- The tokens of a test, from those of a value with a parenthesis behind it and those of its text. -/
def ValueTest.tokens (value text : List Token) : ValueTest → List Token
  | .kind name => [.name "jsonb_typeof", .opened] ++ (value ++ [.operator .equal, .literal name])
  | .integerText => text ++ [.operator .like, .literal "^-?[0-9]+$"]
  | .between low high =>
    text ++ ([.operator .cast, .name "numeric", .keyword .between] ++
      (Token.ofInt low ++ ([.keyword .and] ++ Token.ofInt high)))

/-- The tokens of a computation. -/
def Derivation.tokens (value text : List Token) : Derivation → List Token
  | .text => text
  | .cast type => text ++ ([.operator .cast] ++ [.name type])
  | .given tests result =>
    [.keyword .case, .keyword .when] ++ ([.keyword .and].intercalate (tests.map (·.tokens value text)) ++
      ([.keyword .gives] ++ (result.tokens value text ++ [.keyword .finish])))

section Scanning
variable {value text : String} {valueTokens textTokens : List Token}

/-- A test for a kind of value gives its tokens. -/
lemma scans_kind (hv : Token.Scans (value.toList ++ [')']) valueTokens) {name : String}
    (quiet : Sql.apostrophe ∉ name.toList) :
    Token.Scans (((ValueTest.kind name).sql value text).toList ++ [' '])
      ((ValueTest.kind name).tokens valueTokens textTokens) := by
  have whole : ((ValueTest.kind name).sql value text).toList ++ [' '] =
      "jsonb_typeof(".toList ++ (value.toList ++ [')'] ++ (" = ".toList ++
        (Sql.apostrophe :: (name.toList ++ [Sql.apostrophe, ' '])))) := by
    change ("jsonb_typeof(" ++ value ++ ") = '" ++ name ++ "'").toList ++ [' '] = _
    simp [Sql.apostrophe]
  have opening : Token.Scans "jsonb_typeof(".toList [.name "jsonb_typeof", .opened] := by decide
  have equal : Token.Scans " = ".toList [.operator .equal] := by decide
  have literal := Token.scans_literal quiet (show Token.start ' ' = some ([], .nothing) from rfl)
  rw [String.ofList_toList] at literal
  rw [whole]
  exact opening.append (hv.append (equal.append literal))

/-- So does a test for the text of a whole number. -/
lemma scans_integerText (ht : Token.Scans text.toList textTokens) :
    Token.Scans ((ValueTest.integerText.sql value text).toList ++ [' '])
      (ValueTest.integerText.tokens valueTokens textTokens) := by
  have whole : (ValueTest.integerText.sql value text).toList ++ [' '] =
      text.toList ++ " ~ '^-?[0-9]+$' ".toList := by
    change (text ++ " ~ '^-?[0-9]+$'").toList ++ [' '] = _
    simp
  have pattern : Token.Scans " ~ '^-?[0-9]+$' ".toList [.operator .like, .literal "^-?[0-9]+$"] := by
    decide
  rw [whole]
  exact ht.append pattern

/-- So does a test for a number between two others. -/
lemma scans_between (ht : Token.Scans text.toList textTokens) (low high : Int) :
    Token.Scans (((ValueTest.between low high).sql value text).toList ++ [' '])
      ((ValueTest.between low high).tokens valueTokens textTokens) := by
  have whole : ((ValueTest.between low high).sql value text).toList ++ [' '] =
      text.toList ++ ("::numeric BETWEEN ".toList ++ ((toString low).toList ++ [' '] ++
        ("AND ".toList ++ ((toString high).toList ++ [' '])))) := by
    change (text ++ "::numeric BETWEEN " ++ toString low ++ " AND " ++ toString high).toList ++ [' '] = _
    simp
  have cast : Token.Scans "::numeric BETWEEN ".toList
      [.operator .cast, .name "numeric", .keyword .between] := by
    decide
  have both : Token.Scans "AND ".toList [.keyword .and] := by decide
  rw [whole]
  exact ht.append (cast.append ((Token.scans_toString low).append
    (both.append (Token.scans_toString high))))

/-- Several tests give their tokens with a word between them. -/
lemma scans_tests {tests : List ValueTest} (some : tests ≠ [])
    (h : ∀ t ∈ tests, Token.Scans ((t.sql value text).toList ++ [' ']) (t.tokens valueTokens textTokens)) :
    Token.Scans ((" AND ".intercalate (tests.map (·.sql value text))).toList ++ [' '])
      ([.keyword .and].intercalate (tests.map (·.tokens valueTokens textTokens))) := by
  induction tests with
  | nil => exact absurd rfl some
  | cons t tests ih =>
    obtain ⟨head, tail⟩ := List.forall_mem_cons.1 h
    cases tests with
    | nil =>
      rw [List.map_singleton, List.map_singleton, String.intercalate_singleton, List.intercalate_singleton]
      exact head
    | cons u tests =>
      have whole : (" AND ".intercalate ((t :: u :: tests).map (·.sql value text))).toList ++ [' '] =
          (t.sql value text).toList ++ [' '] ++ ("AND ".toList ++
            ((" AND ".intercalate ((u :: tests).map (·.sql value text))).toList ++ [' '])) := by
        rw [List.map_cons, String.intercalate_cons_of_ne_nil (by simp)]
        simp
      have cut : [Token.keyword .and].intercalate
            ((t :: u :: tests).map (·.tokens valueTokens textTokens)) =
          t.tokens valueTokens textTokens ++ ([.keyword .and] ++
            [Token.keyword .and].intercalate ((u :: tests).map (·.tokens valueTokens textTokens))) := by
        rw [List.map_cons, List.map_cons, List.intercalate_cons_cons, List.append_assoc]
      have both : Token.Scans "AND ".toList [.keyword .and] := by decide
      rw [whole, cut]
      exact head.append (both.append (ih (by simp) tail))

/-- A value under a condition gives the tokens of both. -/
lemma scans_given {tests : List ValueTest} {result : Derivation} (some : tests ≠ [])
    (hs : ∀ t ∈ tests, Token.Scans ((t.sql value text).toList ++ [' ']) (t.tokens valueTokens textTokens))
    (hr : Token.Scans ((result.sql value text).toList ++ [' ']) (result.tokens valueTokens textTokens)) :
    Token.Scans (((Derivation.given tests result).sql value text).toList ++ [' '])
      ((Derivation.given tests result).tokens valueTokens textTokens) := by
  have whole : ((Derivation.given tests result).sql value text).toList ++ [' '] =
      "CASE WHEN ".toList ++ ((" AND ".intercalate (tests.map (·.sql value text))).toList ++ [' '] ++
        ("THEN ".toList ++ ((result.sql value text).toList ++ [' '] ++ "END ".toList))) := by
    change ("CASE WHEN " ++ " AND ".intercalate (tests.map (·.sql value text)) ++
      (" THEN " ++ result.sql value text ++ " END")).toList ++ [' '] = _
    simp
  have opening : Token.Scans "CASE WHEN ".toList [.keyword .case, .keyword .when] := by decide
  have gives : Token.Scans "THEN ".toList [.keyword .gives] := by decide
  have closing : Token.Scans "END ".toList [.keyword .finish] := by decide
  rw [whole]
  exact opening.append ((scans_tests some hs).append (gives.append (hr.append closing)))

/-- A cast gives the tokens of the text and of the type. -/
lemma scans_cast (ht : Token.Scans text.toList textTokens) {type : String}
    (reference : Token.IsReference type) :
    Token.Scans (((Derivation.cast type).sql value text).toList ++ [' '])
      ((Derivation.cast type).tokens valueTokens textTokens) := by
  have whole : ((Derivation.cast type).sql value text).toList ++ [' '] =
      text.toList ++ ([':', ':'] ++ (type.toList ++ [' '])) := by
    change (text ++ "::" ++ type).toList ++ [' '] = _
    simp
  rw [whole]
  exact ht.append (reference.behind (by decide) rfl (by simp))

/-- The computation of a column is cut into tokens. -/
lemma scans_derivation (hv : Token.Scans (value.toList ++ [')']) valueTokens)
    (ht : Token.Scans text.toList textTokens) (type : ColumnType) :
    Token.Scans ((type.derivation.sql value text).toList ++ [' '])
      (type.derivation.tokens valueTokens textTokens) := by
  have number : Sql.apostrophe ∉ "number".toList := by decide
  have boolean : Sql.apostrophe ∉ "boolean".toList := by decide
  cases type with
  | text =>
    have blank : Token.Scans [' '] [] := by decide
    have scans := ht.append blank
    rwa [List.append_nil] at scans
  | integer =>
    apply scans_given (by simp) _ (scans_given (by simp) _ (scans_cast ht (by decide)))
    · simp only [List.forall_mem_cons]
      exact ⟨scans_kind hv number, scans_integerText ht, by simp⟩
    · simp only [List.forall_mem_cons]
      exact ⟨scans_between ht _ _, by simp⟩
  | boolean =>
    apply scans_given (by simp) _ (scans_cast ht (by decide))
    simp only [List.forall_mem_cons]
    exact ⟨scans_kind hv boolean, by simp⟩

end Scanning

/-! ## Computations as expressions -/

/-- The computation of a column from the value at its path and the text of that value. -/
def ColumnType.computation (value text : Expression) : ColumnType → Expression
  | .text => text
  | .integer =>
    .given (.both (.binary .equal (.call "jsonb_typeof" value) (.literal "number"))
        (.binary .like text (.literal "^-?[0-9]+$")))
      (.given (.between (.cast text "numeric") (.negated (.number 9223372036854775808))
          (.number 9223372036854775807))
        (.cast text "bigint"))
  | .boolean =>
    .given (.binary .equal (.call "jsonb_typeof" value) (.literal "boolean")) (.cast text "boolean")

/-- A text is read as the expression that its tokens are parsed as. -/
lemma read?_of_scans {text : String} {ts : List Token} {e : Expression}
    (h : Token.Scans (text.toList ++ [' ']) ts) (parsed : parse ts.length ts = some (e, [])) :
    Expression.read? text = some e := by
  rw [Expression.read?, Token.tokens?_of_scans h]
  change (parse ts.length ts >>= _) = _
  rw [parsed]
  rfl

/-- The text of a computation is read as that computation. -/
theorem read?_sql {source text : String} (reference : Token.IsReference source) {path : Path}
    (h : Path.read text = .ok path) (type : ColumnType) :
    Expression.read? (type.derivation.sql s!"{source} #> {path.literal}" s!"({source} #>> {path.literal})") =
      some (type.computation (.binary .value (.column source) (.literal (String.ofList path.array)))
        (.binary .text (.column source) (.literal (String.ofList path.array)))) := by
  have literal := Token.scans_literal (not_mem_array h (by decide))
    (show Token.start ')' = some ([.closed], .nothing) from rfl)
  have value : Token.Scans ((s!"{source} #> {path.literal}").toList ++ [')'])
      [.name source, .operator .value, .literal (String.ofList path.array), .closed] := by
    have whole : (s!"{source} #> {path.literal}").toList ++ [')'] = source.toList ++ [' '] ++
        (['#', '>', ' '] ++ (Sql.apostrophe :: (path.array ++ [Sql.apostrophe, ')']))) := by
      simp [toString, path.toList_literal]
    have operator : Token.Scans ['#', '>', ' '] [.operator .value] := by decide
    rw [whole]
    exact reference.scans.append (operator.append literal)
  have text : Token.Scans (s!"({source} #>> {path.literal})").toList
      [.opened, .name source, .operator .text, .literal (String.ofList path.array), .closed] := by
    have whole : (s!"({source} #>> {path.literal})").toList = ['('] ++ (source.toList ++ [' '] ++
        (['#', '>', '>', ' '] ++ (Sql.apostrophe :: (path.array ++ [Sql.apostrophe, ')'])))) := by
      simp [toString, path.toList_literal]
    have opening : Token.Scans ['('] [.opened] := by decide
    have operator : Token.Scans ['#', '>', '>', ' '] [.operator .text] := by decide
    rw [whole]
    exact opening.append (reference.scans.append (operator.append literal))
  apply read?_of_scans (scans_derivation value text type)
  cases type with
  | text => rfl
  | integer => rfl
  | boolean => rfl

end Tenancy.Schema
