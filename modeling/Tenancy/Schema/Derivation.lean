import Tenancy.Schema.Table
import Tenancy.Text.Numeral

/-!
# Derived columns

How a derived column is computed from a document: as an expression with two atoms, the value at the
column's path and the text of that value. A number or a truth value is cast only after tests that
make the cast safe; where a test fails the column stays empty. `DerivedColumn.expression` is the text
of the computation.
-/

namespace Tenancy.Schema
open Text

/-- A test of the value at a path. -/
inductive ValueTest where
  /-- The value is of a kind of the document format. -/
  | kind (name : String)
  /-- The text is an optional minus sign and digits. -/
  | integerText
  /-- The text, read as a number, lies between two integers. -/
  | between (low high : Int)
  deriving DecidableEq, Repr

/-- What is computed from the value at a path. -/
inductive Derivation where
  | text
  | cast (type : String)
  /-- Nothing, unless all the tests hold. -/
  | given (tests : List ValueTest) (result : Derivation)
  deriving Repr

/-- The computation for each type of column. -/
def ColumnType.derivation : ColumnType → Derivation
  | .text => .text
  | .integer =>
    .given [.kind "number", .integerText] (.given [.between minInt64 maxInt64] (.cast "bigint"))
  | .boolean => .given [.kind "boolean"] (.cast "boolean")

/-- A test as the server reads it, of a value and its text. -/
def ValueTest.sql (value text : String) : ValueTest → String
  | .kind name => s!"jsonb_typeof({value}) = '{name}'"
  | .integerText => s!"{text} ~ '^-?[0-9]+$'"
  | .between low high => s!"{text}::numeric BETWEEN {low} AND {high}"

/-- A computation as the server reads it, from a value and its text. -/
def Derivation.sql (value text : String) : Derivation → String
  | .text => text
  | .cast type => s!"{text}::{type}"
  | .given tests result =>
    "CASE WHEN " ++ " AND ".intercalate (tests.map (·.sql value text)) ++
      s!" THEN {result.sql value text} END"

/-- The expression that computes a column from the document that `source` denotes. -/
def DerivedColumn.expression (c : DerivedColumn) (source : String) : Except Failure String := do
  let path ← Path.parse c.path
  return c.type.derivation.sql s!"{source} #> {path.literal}" s!"({source} #>> {path.literal})"

end Tenancy.Schema
