import Tenancy.Ownership
import Tenancy.Sql.Identifier
import Tenancy.Sql.Lexeme
import Tenancy.Text.Word

/-!
# A tenant's lease on a shared database

A lease gives one tenant its own tables inside a database: wherever the code of a statement names a
table that tenants own, the tenant's prefix is put in front. Names match as whole words and in any
case; of two names that match at one place the longer one counts. Literals, quoted names,
dollar-quoted bodies and comments stay as they are.
-/

namespace Tenancy
open Text

/-- A tenant's prefix and the names it is put on. -/
structure Lease where
  tablePrefix : TablePrefix
  ownership : Ownership
  deriving DecidableEq

/-- Whether `m` is tried before `n` at one place: longer names first, counted in bytes, and names of
one length in order. -/
def triedBefore (m n : String) : Bool :=
  if m.utf8ByteSize = n.utf8ByteSize then m ≤ n else n.utf8ByteSize < m.utf8ByteSize

/-- How many characters the first of the names takes that stands as a whole word at the head of a
text, after the character `before`. -/
def wordLength? (names : List (List Char)) (before : Option Char) (cs : List Char) : Option Nat :=
  let stands (name : List Char) : Bool :=
    match afterFolded? name cs with
    | none => false
    | some rest => boundary ((cs.take name.length).getLast?.or before) rest.head?
  if boundary before cs.head? then (names.find? stands).map List.length else none

/-- Puts the mark in front of every whole word that is one of the names, and writes that word in
lower case. Where the empty name is among them the mark alone is put at the edges of words, but for
an edge where a name `ended`. -/
def markWords (names : List (List Char)) (mark : List Char) (ended : Bool) (before : Option Char) :
    List Char → List Char
  | [] => if wordLength? names before [] = some 0 ∧ ¬ ended then mark else []
  | c :: cs =>
    match wordLength? names before (c :: cs) with
    | none => c :: markWords names mark false (some c) cs
    | some 0 => (if ended then [] else mark) ++ c :: markWords names mark false (some c) cs
    | some (n + 1) =>
      mark ++ lower ((c :: cs).take (n + 1)) ++
        markWords names mark true ((c :: cs)[n]?) (cs.drop n)
termination_by cs => cs.length
decreasing_by
  · simp
  · simp
  · simp only [List.length_drop, List.length_cons]; omega

namespace Lease

/-- The names that get the prefix, in the order in which they are tried. -/
def words (l : Lease) : List (List Char) :=
  (l.ownership.own.mergeSort triedBefore).map String.toList

/-- The statement with the tenant's tables in place of those it names. -/
def apply (l : Lease) (sql : List Char) : List Char :=
  if l.words = [] then sql
  else Sql.mapCode (markWords l.words l.tablePrefix.text.toList false none) sql

/-- The table that an identifier denotes for the tenant. -/
def table (l : Lease) (name : String) : String :=
  let folded := String.ofList (Sql.foldName name.toList)
  if folded ∈ l.ownership.own then l.tablePrefix.apply folded else folded

end Lease
end Tenancy
