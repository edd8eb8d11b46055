import Mathlib.Data.Char
import Tenancy.Proofs.Expression.Document
import Tenancy.Proofs.Expression.Reading

/-!
# What expressions mean

The value of an expression in a row (`Expression.eval`). Operators are strict and fail on what is not of
their types, also on the right of an `AND` whose left does not hold; casts fail on texts that are not
suitable. Only `CASE` leaves a part without a value: its result, where its condition does not hold.

Three small languages stand in literals: elements of paths (`readElements`), patterns (`Pattern.read?`) and
the texts that casts read. Of these the server takes more spellings than are read here; the others fail.
-/

namespace Tenancy.Expression
open Text Sql

/-- Why an expression has no value. -/
inductive Fault where
  /-- There is no column, function, operator or type of the name for such values. -/
  | undefined
  /-- A text does not suit the type that it is read as, or is out of its range. -/
  | unsuitable
  deriving DecidableEq, Repr

/-- The value of an expression. -/
inductive Datum where
  | null
  /-- A literal that gets its type from where it stands. -/
  | unknown (text : String)
  | text (s : String)
  | document (d : Jsonb)
  | numeric (x : Decimal)
  | bigint (n : Int)
  | boolean (b : Bool)

/-! ## Elements of paths -/

/-- A character that stands for itself in an array literal. -/
def isElementChar (c : Char) : Bool := isNameChar c || c = '-'

/-- Whether a word spells null, which is then no element but an absent one. -/
def spellsNull (cs : List Char) : Bool := cs.map Char.toLower = ['n', 'u', 'l', 'l']

/-- Reads an element of an array literal. -/
def readElement (cs : List Char) : Except Fault (Option String) :=
  if cs = [] ∨ ¬ cs.all isElementChar then .error .unsuitable
  else .ok (if spellsNull cs then none else some (String.ofList cs))

/-- Reads an array literal. -/
def readElements (literal : String) : Except Fault (List (Option String)) :=
  match literal.toList with
  | '{' :: cs =>
    if cs.getLast? = some '}' then (cs.dropLast.splitOn ',').mapM readElement else .error .unsuitable
  | _ => .error .unsuitable

/-! ## Patterns -/

/-- How often an item of a pattern may occur. -/
inductive Times where
  | once
  | perhaps
  | repeated
  deriving DecidableEq, Repr

/-- A range of characters in a pattern. -/
structure Item where
  low : Char
  high : Char
  times : Times
  deriving DecidableEq, Repr

namespace Item

/-- What may be left of a text after so many characters of an item. -/
def rests (i : Item) : List Char → List (List Char)
  | [] => if i.times = .perhaps then [[]] else []
  | c :: cs =>
    let taken := if i.low ≤ c ∧ c ≤ i.high then
      match i.times with
      | .repeated => cs :: i.rests cs
      | _ => [cs]
    else []
    if i.times = .perhaps then (c :: cs) :: taken else taken

end Item

/-- A pattern that is to match a whole text. -/
abbrev Pattern := List Item

namespace Pattern

/-- The characters of patterns that do not stand for themselves. -/
def marks : List Char := ['^', '$', '?', '+', '*', '.', '|', '\\', '(', ')', '[', ']', '{', '}']

/-- Reads the items of a pattern, after some others in reverse. -/
def readItems (items : Pattern) : List Char → Option Pattern
  | [] => some items.reverse
  | '[' :: low :: '-' :: high :: ']' :: cs => readItems (⟨low, high, .once⟩ :: items) cs
  | c :: cs =>
    match c, items with
    | '?', ⟨low, high, .once⟩ :: items => readItems (⟨low, high, .perhaps⟩ :: items) cs
    | '+', ⟨low, high, .once⟩ :: items => readItems (⟨low, high, .repeated⟩ :: items) cs
    | c, items => if c ∈ marks then none else readItems (⟨c, c, .once⟩ :: items) cs

/-- Reads a pattern, between the marks of the two ends of a text. -/
def read? (pattern : String) : Option Pattern :=
  match pattern.toList with
  | '^' :: cs => if cs.getLast? = some '$' then readItems [] cs.dropLast else none
  | _ => none

/-- Whether a text is one of those that a pattern describes. -/
def describes : Pattern → List Char → Bool
  | [], cs => cs.isEmpty
  | i :: items, cs => (i.rests cs).any (describes items)

/-- The pattern of whole numbers. -/
def integer : Pattern := [⟨'-', '-', .perhaps⟩, ⟨'0', '9', .repeated⟩]

/-- The pattern for whole numbers can be read. -/
lemma read?_integer : read? "^-?[0-9]+$" = some integer := by decide

/-- A pattern describes a text if its first item does with a part, and the other items with the rest. -/
lemma describes_cons (i : Item) (items : Pattern) (cs : List Char) :
    describes (i :: items) cs = (i.rests cs).any (describes items) := rfl

/-- The last item describes digits, at least one. -/
lemma describes_digits (cs : List Char) :
    describes [⟨'0', '9', .repeated⟩] cs ↔ cs ≠ [] ∧ cs.all Char.isDigit := by
  induction cs with
  | nil => simp [describes, Item.rests]
  | cons c cs ih =>
    have digit : ('0' ≤ c ∧ c ≤ '9') ↔ c.isDigit := by
      rw [Char.isDigit, Bool.and_eq_true, decide_eq_true_iff, decide_eq_true_iff]
      rfl
    rw [describes_cons]
    by_cases first : c.isDigit
    · have rests : Item.rests ⟨'0', '9', .repeated⟩ (c :: cs) = cs :: Item.rests ⟨'0', '9', .repeated⟩ cs := by
        rw [Item.rests, if_pos (digit.2 first)]
        rfl
      rw [rests, List.any_cons, ← describes_cons, Bool.or_eq_true, ih, List.all_cons, first, Bool.true_and]
      cases cs with
      | nil => simp [describes]
      | cons d cs => simp [describes]
    · have rests : Item.rests ⟨'0', '9', .repeated⟩ (c :: cs) = [] := by
        rw [Item.rests, if_neg (mt digit.1 first)]
        rfl
      simp [rests, first]

/-- What the pattern of whole numbers describes: digits, perhaps with a minus sign in front. -/
lemma describes_integer (cs : List Char) :
    integer.describes cs ↔ describes [⟨'0', '9', .repeated⟩] cs ∨
      ∃ ds, cs = '-' :: ds ∧ describes [⟨'0', '9', .repeated⟩] ds := by
  rw [integer, describes_cons]
  cases cs with
  | nil => simp [Item.rests]
  | cons c cs =>
    by_cases minus : c = '-'
    · subst minus
      have rests : Item.rests ⟨'-', '-', .perhaps⟩ ('-' :: cs) = ['-' :: cs, cs] := by
        rw [Item.rests, if_pos (by decide)]
        rfl
      simp [rests]
    · have rests : Item.rests ⟨'-', '-', .perhaps⟩ (c :: cs) = [c :: cs] := by
        have other : ¬ ('-' ≤ c ∧ c ≤ '-') := fun range => minus (le_antisymm range.2 range.1)
        rw [Item.rests, if_neg other]
        rfl
      simp [rests, minus]

/-- A number is printed as the pattern describes exactly if it has no digits behind the point. -/
lemma describes_text (d : Decimal) : integer.describes d.text.toList ↔ ∃ n, d = .ofInt n := by
  rw [describes_integer, Decimal.text, String.toList_ofList]
  constructor
  · intro described
    have whole : d.scale = 0 := by
      by_contra fraction
      have point := Decimal.point_mem_chars fraction
      rcases described with digits | ⟨ds, eq, digits⟩
      · cases List.all_eq_true.1 ((describes_digits _).1 digits).2 '.' point
      · rw [eq] at point
        rcases List.mem_cons.1 point with mark | point
        · cases mark
        · cases List.all_eq_true.1 ((describes_digits _).1 digits).2 '.' point
    obtain ⟨n, scale⟩ := d
    cases whole
    exact ⟨n, rfl⟩
  · rintro ⟨n, rfl⟩
    have digits := (describes_digits _).2 ⟨Nat.toDigits_ne_nil, all_isDigit_toDigits n.natAbs⟩
    rw [Decimal.chars_ofInt, toList_toString]
    by_cases negative : n < 0
    · rw [if_pos negative]
      exact .inr ⟨_, rfl, digits⟩
    · rw [if_neg negative]
      exact .inl digits

end Pattern

/-! ## Operators -/

namespace Datum

/-- The truth of a condition, which may be unknown. -/
def truth : Datum → Except Fault (Option Bool)
  | .null => .ok none
  | .boolean b => .ok (some b)
  | _ => .error .undefined

/-- A truth as a value. -/
def ofTruth : Option Bool → Datum
  | none => .null
  | some b => .boolean b

/-- Whether two conditions hold. -/
def both : Option Bool → Option Bool → Option Bool
  | some false, _ => some false
  | _, some false => some false
  | some true, some true => some true
  | _, _ => none

/-- What is true leaves the other truth as it is. -/
lemma both_true (q : Option Bool) : both (some true) q = q := by
  cases q with
  | none => rfl
  | some b =>
    cases b with
    | false => rfl
    | true => rfl

/-- A truth is its own. -/
lemma truth_ofTruth (held : Option Bool) : (ofTruth held).truth = .ok held := by
  cases held with
  | none => rfl
  | some b => rfl

/-- A value of a document as text; null has none. -/
def ofText : Jsonb → Datum
  | .null => .null
  | d => .text d.text

/-- The value at a path that a literal spells, in the way that `give` says. -/
def follow (give : Jsonb → Datum) (literal : String) (left : Datum) : Except Fault Datum := do
  let elements ← readElements literal
  match left with
  | .null => return .null
  | .document d => return (d.at? elements).elim .null give
  | _ => throw .undefined

/-- Compares a text with a pattern. -/
def like (literal : String) (left : Datum) : Except Fault Datum := do
  let some pattern := Pattern.read? literal | throw .unsuitable
  match left with
  | .null => return .null
  | .text s => return .boolean (pattern.describes s.toList)
  | _ => throw .undefined

/-- Compares two texts. -/
def equal (literal : String) : Datum → Except Fault Datum
  | .null => .ok .null
  | .text s => .ok (.boolean (s = literal))
  | _ => .error .undefined

/-- Applies an operator to a value and a literal. -/
def apply (o : Operator) (left right : Datum) : Except Fault Datum :=
  match o, right with
  | .value, .unknown s => left.follow .document s
  | .text, .unknown s => left.follow ofText s
  | .like, .unknown s => left.like s
  | .equal, .unknown s => left.equal s
  | _, _ => .error .undefined

/-- The operator for a value follows a key in a document. -/
@[simp]
lemma apply_value (left : Datum) (s : String) :
    apply .value left (.unknown s) = left.follow .document s := rfl

/-- The operator for a text does so too, and gives the text. -/
@[simp]
lemma apply_text (left : Datum) (s : String) : apply .text left (.unknown s) = left.follow ofText s := rfl

/-- The operator for patterns compares with one. -/
@[simp]
lemma apply_like (left : Datum) (s : String) : apply .like left (.unknown s) = left.like s := rfl

/-- The operator for equality compares with a text. -/
@[simp]
lemma apply_equal (left : Datum) (s : String) : apply .equal left (.unknown s) = left.equal s := rfl

/-- The kind of a document's value. -/
def kind : Datum → Except Fault Datum
  | .null => .ok .null
  | .document d => .ok (.text d.kind)
  | _ => .error .undefined

/-- Calls a function. -/
def call (function : String) (argument : Datum) : Except Fault Datum :=
  if function = "jsonb_typeof" then argument.kind else .error .undefined

/-- The function for kinds tells the kind. -/
lemma call_kind (d : Datum) : d.call "jsonb_typeof" = d.kind := if_pos rfl

/-- The truth value that a text spells. -/
def readBoolean? (s : String) : Option Bool :=
  if s = "true" then some true else if s = "false" then some false else none

/-- Reads a text as a value of a type. -/
def read (type : String) (s : String) : Except Fault Datum :=
  if type = "numeric" then
    match Decimal.read? s.toList with
    | some x => if x.Fits then .ok (.numeric x) else .error .unsuitable
    | none => .error .unsuitable
  else if type = "bigint" then
    match readInteger? minInt64 maxInt64 s.toList with
    | some n => .ok (.bigint n)
    | none => .error .unsuitable
  else if type = "boolean" then
    match readBoolean? s with
    | some b => .ok (.boolean b)
    | none => .error .unsuitable
  else .error .undefined

/-- A whole number that fits can be read as one of any size. -/
lemma read_numeric {n : Int} (fits : (Decimal.ofInt n).Fits) :
    read "numeric" (toString n) = .ok (.numeric (.ofInt n)) := by
  rw [read, if_pos rfl, Decimal.read?_toString]
  exact if_pos fits

/-- A whole number of 64 bits can be read as one. -/
lemma read_bigint {n : Int} (low : minInt64 ≤ n) (high : n ≤ maxInt64) :
    read "bigint" (toString n) = .ok (.bigint n) := by
  rw [read, if_neg (by decide), if_pos rfl, readInteger?_eq_some.2 ⟨numeral_toString n, low, high⟩]

/-- A truth value can be read as one. -/
lemma read_boolean (b : Bool) : read "boolean" (toString b) = .ok (.boolean b) := by
  have types : "boolean" ≠ "numeric" ∧ "boolean" ≠ "bigint" := by simp
  rw [read, if_neg types.1, if_neg types.2, if_pos rfl]
  cases b with
  | false => simp [readBoolean?, toString]
  | true => simp [readBoolean?, toString]

/-- Casts a value to a type. -/
def cast (type : String) : Datum → Except Fault Datum
  | .null => .ok .null
  | .text s => read type s
  | _ => .error .undefined

/-- The negative of a number. -/
def neg : Datum → Except Fault Datum
  | .null => .ok .null
  | .numeric x => .ok (.numeric x.neg)
  | _ => .error .undefined

/-- Whether a number lies between two others. -/
def between : Datum → Datum → Datum → Except Fault Datum
  | .null, .numeric _, .numeric _ => .ok .null
  | .numeric x, .numeric low, .numeric high => .ok (.boolean (low.le x && x.le high))
  | _, _, _ => .error .undefined

end Datum

/-! ## Values of expressions -/

/-- The values of a row's columns. -/
abbrev Columns := String → Option Datum

/-- The value of an expression in a row. -/
def eval (row : Columns) : Expression → Except Fault Datum
  | .column name => (row name).elim (.error .undefined) .ok
  | .literal s => .ok (.unknown s)
  | .number n => .ok (.numeric (.ofInt n))
  | .call function argument => do (← argument.eval row).call function
  | .given condition result => do
    let held ← (← condition.eval row).truth
    if held = some true then result.eval row else return .null
  | .cast e type => do (← e.eval row).cast type
  | .negated e => do (← e.eval row).neg
  | .binary o left right => do Datum.apply o (← left.eval row) (← right.eval row)
  | .between e low high => do Datum.between (← e.eval row) (← low.eval row) (← high.eval row)
  | .both left right => do
    let l ← (← left.eval row).truth
    let r ← (← right.eval row).truth
    return .ofTruth (Datum.both l r)

/-- An operator is applied to what its left side is and to the text on its right. -/
lemma eval_binary {row : Columns} {left : Expression} {l : Datum} (h : left.eval row = .ok l) (o : Operator)
    (s : String) : (binary o left (literal s)).eval row = Datum.apply o l (.unknown s) := by
  rw [eval, h]
  rfl

end Tenancy.Expression
