import Tenancy.Failure
import Tenancy.Text.Word

/-!
# Table prefixes

Tenants of one database are kept apart by a prefix on their table names. `TablePrefix.ofName` derives
it from a tenant's name, `TablePrefix.ofSanitized` takes one that was derived before, and
`TablePrefix.apply` puts it in front of a name. The type itself holds sanitized prefixes only.
-/

namespace Tenancy
open Text

/-- The longest prefix. Names built from a prefix, a table and a suffix stay below the server's limit
of 63 bytes, past which it would cut them off and tenants would share objects. -/
def maxPrefixLength : Nat := 30

/-- A lower-case ASCII letter, an ASCII digit or an underscore. -/
def isPrefixChar (c : Char) : Bool := c.isLower || c.isDigit || c = '_'

/-- What a table prefix looks like: it ends in an underscore, starts with no digit, is not too long
and holds prefix characters only. -/
def Sanitized (cs : List Char) : Prop :=
  cs.getLast? = some '_' ∧ ¬ cs.head?.any Char.isDigit ∧ cs.length ≤ maxPrefixLength ∧
    cs.all isPrefixChar
deriving Decidable

/-- The prefix of one tenant's tables. -/
structure TablePrefix where
  text : String
  sanitized : Sanitized text.toList
  deriving DecidableEq

/-- A character of a tenant's name as it stands in the prefix: ASCII letters in lower case, digits
and underscores as they are, an underscore for anything else. -/
def sanitizeChar (c : Char) : Char := if c.isAlphanum || c = '_' then c.toLower else '_'

/-- The candidate for a prefix: the sanitized name and an underscore. -/
def sanitize (name : List Char) : List Char := name.map sanitizeChar ++ ['_']

/-- A capital has a small letter. -/
theorem isLower_toLower {c : Char} (h : c.isUpper) : c.toLower.isLower := by
  have upper : c.val ≥ 'A'.val ∧ c.val ≤ 'Z'.val := of_decide_eq_true h
  have lowered : c.toLower.val = c.val + ('a'.val - 'A'.val) :=
    congrArg Char.val (dif_pos upper)
  have upA : ('A'.val).toNat = 65 := rfl
  have upZ : ('Z'.val).toNat = 90 := rfl
  have lowA : ('a'.val).toNat = 97 := rfl
  have lowZ : ('z'.val).toNat = 122 := rfl
  have shift : ('a'.val - 'A'.val).toNat = 32 := rfl
  have range : c.toLower.val ≥ 'a'.val ∧ c.toLower.val ≤ 'z'.val := by
    rw [lowered]
    simp only [ge_iff_le, UInt32.le_iff_toNat_le, UInt32.toNat_add, shift] at upper ⊢
    omega
  exact Bool.and_eq_true_iff.2 ⟨decide_eq_true range.1, decide_eq_true range.2⟩

/-- Any other character stays. -/
theorem toLower_of_not_isUpper {c : Char} (h : ¬ c.isUpper) : c.toLower = c :=
  dif_neg fun upper => h (decide_eq_true upper)

/-- Letters and digits are capitals, small letters and digits. -/
theorem isAlphanum_iff (c : Char) :
    c.isAlphanum ↔ c.isUpper ∨ c.isLower ∨ c.isDigit := by
  have parts : c.isAlphanum = (c.isUpper || c.isLower || c.isDigit) := rfl
  simp [parts, or_assoc]

/-- Whatever a character is, a prefix can have what becomes of it. -/
theorem isPrefixChar_sanitizeChar (c : Char) : isPrefixChar (sanitizeChar c) = true := by
  unfold sanitizeChar isPrefixChar
  split
  · next h =>
    by_cases hu : c.isUpper
    · simp [isLower_toLower hu]
    · rw [toLower_of_not_isUpper hu]
      simp_all [isAlphanum_iff, or_assoc]
  · decide

/-- A candidate is a prefix as soon as it starts with no digit and is not too long. -/
theorem sanitized_sanitize {name : List Char} (head : ¬ (sanitize name).head?.any Char.isDigit)
    (len : (sanitize name).length ≤ maxPrefixLength) : Sanitized (sanitize name) :=
  ⟨by simp [sanitize], head, len, by
    simp [sanitize, isPrefixChar_sanitizeChar]; decide⟩

namespace TablePrefix

/-- The prefix of the tenant called `name`. -/
def ofName (name : String) : Except Failure TablePrefix :=
  let candidate := sanitize name.toList
  if (trim name.toList).isEmpty then .error (.invalidTenant name .blank)
  else if head : candidate.head?.any Char.isDigit then
    .error (.invalidTenant name (.leadingDigit (String.ofList candidate)))
  else if len : candidate.length ≤ maxPrefixLength then
    .ok ⟨String.ofList candidate, by
      rw [String.toList_ofList]; exact sanitized_sanitize head len⟩
  else .error (.invalidTenant name (.tooLong (String.ofList candidate)))

/-- A prefix that was derived before, read back. -/
def ofSanitized (text : String) : Except Failure TablePrefix :=
  if h : Sanitized text.toList then .ok ⟨text, h⟩
  else .error (.invalidTenant text .notSanitized)

/-- The physical name of a tenant's own table or schema object. -/
def apply (p : TablePrefix) (name : String) : String := p.text ++ name

/-- Prefixes in the order of their characters. -/
instance : Ord TablePrefix where
  compare p q := compare p.text q.text

end TablePrefix
end Tenancy
