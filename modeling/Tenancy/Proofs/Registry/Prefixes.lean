import Mathlib.Data.List.TakeWhile
import Tenancy.Proofs.Registry.Bindings
import Tenancy.Proofs.Text.Folding
import Tenancy.Proofs.Text.Words

/-!
# Which texts are prefixes

A prefix is what a name gives, or a text that looks like one. `TablePrefix.ofName_eq_ok` says which names give
which prefix, and `TablePrefix.exists_ofName_iff` that every text which looks like a prefix is that of some
name, but for the underscore alone: the name of which it is the prefix would be empty. So what is read back is
what names give, and the underscore (`TablePrefix.ofSanitized_eq_ok_iff`).
-/

namespace Tenancy
open Text

/-- Nothing is left of a text that is trimmed exactly if all of it is white space. -/
lemma trim_eq_nil {cs : List Char} : trim cs = [] ↔ ∀ c ∈ cs, isBlank c := by
  have start : trimStart cs = [] ↔ ∀ c ∈ cs, isBlank c := List.dropWhile_eq_nil_iff
  rw [← start, trim, List.reverse_eq_nil_iff]
  constructor
  · intro done
    have blank : ∀ c ∈ trimStart cs, isBlank c := fun c mem =>
      List.dropWhile_eq_nil_iff.1 done c (List.mem_reverse.2 mem)
    -- What is left at the start does not begin with white space, so it does not begin at all.
    have head : (trimStart cs).head?.any isBlank = false := any_head_dropWhile isBlank cs
    cases rest : trimStart cs with
    | nil => rfl
    | cons c rest' =>
      rw [rest] at blank head
      rw [List.head?_cons, Option.any_some, blank c List.mem_cons_self] at head
      cases head
  · intro none
    rw [none]
    rfl

/-- A character of prefixes is no blank. -/
lemma isBlank_of_isPrefixChar {c : Char} (h : isPrefixChar c) : isBlank c = false := by
  rw [Bool.eq_false_iff]
  intro blank
  have word := isWord_of_isNameChar (isNameChar_of_isPrefixChar h)
  rw [not_isWord_of_isBlank blank] at word
  cases word

/-- What stands in prefixes stands for itself. -/
lemma sanitizeChar_of_isPrefixChar {c : Char} (h : isPrefixChar c) : sanitizeChar c = c := by
  have name := isNameChar_of_isPrefixChar h
  rw [Sql.isNameChar] at name
  rw [sanitizeChar, if_pos name, toLower_of_isPrefixChar h]

/-- A text of such characters gets an underscore behind it. -/
lemma sanitize_of_isPrefixChar {cs : List Char} (h : cs.all isPrefixChar) :
    sanitize cs = cs ++ ['_'] := by
  have same : ∀ c ∈ cs, sanitizeChar c = id c := fun c mem =>
    sanitizeChar_of_isPrefixChar (List.all_eq_true.1 h c mem)
  rw [sanitize, List.map_congr_left same, List.map_id]

namespace TablePrefix
variable {name text : String} {p : TablePrefix}

/-- A name gives a prefix exactly if it is not blank and the prefix is what it is sanitized to. -/
lemma ofName_eq_ok :
    ofName name = .ok p ↔ trim name.toList ≠ [] ∧ p.text.toList = sanitize name.toList := by
  rw [ofName]
  constructor
  · intro given
    split at given
    · cases given
    · next some =>
      rw [List.isEmpty_iff] at some
      split at given
      · cases given
      · split at given
        · cases given
          exact ⟨some, String.toList_ofList⟩
        · cases given
  · rintro ⟨some, eq⟩
    obtain ⟨-, head, len, -⟩ := p.sanitized
    rw [eq] at head len
    rw [if_neg (by rwa [List.isEmpty_iff]), dif_neg head, dif_pos len]
    refine congrArg Except.ok (eq_of_text ?_)
    change String.ofList (sanitize name.toList) = p.text
    rw [← eq, String.ofList_toList]

/-- Every prefix is that of some name, but for the underscore alone. -/
lemma exists_ofName_iff (p : TablePrefix) : (∃ name, ofName name = .ok p) ↔ p.text ≠ "_" := by
  constructor
  · rintro ⟨name, given⟩ eq
    obtain ⟨some, eq'⟩ := ofName_eq_ok.1 given
    rw [eq] at eq'
    have empty : name.toList = [] := by
      have len := congrArg List.length eq'
      simpa [sanitize] using len
    exact some (by rw [empty]; rfl)
  · intro other
    obtain ⟨cs, eq⟩ := List.getLast?_eq_some_iff.1 p.sanitized.1
    have chars : cs.all isPrefixChar := by
      have all := p.sanitized.2.2.2
      rw [eq, List.all_append, Bool.and_eq_true] at all
      exact all.1
    cases cs with
    | nil =>
      refine absurd (String.toList_inj.1 ?_) other
      rw [eq]
      rfl
    | cons c cs =>
      refine ⟨String.ofList (c :: cs), ofName_eq_ok.2 ⟨fun blank => ?_, ?_⟩⟩
      · rw [String.toList_ofList] at blank
        have head := trim_eq_nil.1 blank c List.mem_cons_self
        rw [isBlank_of_isPrefixChar (List.all_eq_true.1 chars c List.mem_cons_self)] at head
        cases head
      · rw [String.toList_ofList, sanitize_of_isPrefixChar chars, eq]

/-- A prefix that is taken over has the text. -/
lemma ofSanitized_eq_ok : ofSanitized text = .ok p ↔ p.text = text := by
  rw [ofSanitized]
  constructor
  · intro read
    split at read
    · cases read
      rfl
    · cases read
  · rintro rfl
    rw [dif_pos p.sanitized]

/-- A text is read back as the prefix that it is, exactly if it is the prefix of some name or the underscore
alone; nothing else is a prefix, and the underscore is that of no name. -/
theorem ofSanitized_eq_ok_iff (text : String) :
    (∀ p, ofSanitized text = .ok p ↔ p.text = text ∧ (text = "_" ∨ ∃ name, ofName name = .ok p)) ∧
    ((∃ p, ofSanitized text = .ok p) ↔
      text = "_" ∨ ∃ name p, ofName name = .ok p ∧ p.text = text) ∧
    ∀ name p, ofName name = .ok p → p.text ≠ "_" := by
  have named (p : TablePrefix) : p.text = "_" ∨ ∃ name, ofName name = .ok p := by
    rw [exists_ofName_iff]
    exact eq_or_ne _ _
  refine ⟨fun p => ?_, ?_, fun name p given => (exists_ofName_iff p).1 ⟨name, given⟩⟩
  · rw [ofSanitized_eq_ok]
    constructor
    · rintro rfl
      exact ⟨rfl, named p⟩
    · exact And.left
  · constructor
    · rintro ⟨p, read⟩
      obtain rfl := ofSanitized_eq_ok.1 read
      exact (named p).imp_right fun ⟨name, given⟩ => ⟨name, p, given, rfl⟩
    · rintro (rfl | ⟨name, p, given, rfl⟩)
      · exact ⟨⟨"_", by decide⟩, ofSanitized_eq_ok.2 rfl⟩
      · exact ⟨p, ofSanitized_eq_ok.2 rfl⟩

/-- The underscore alone is read back as a prefix, and no name gives it. -/
theorem underscore_of_no_name :
    ofSanitized "_" = .ok ⟨"_", by decide⟩ ∧ ¬ ∃ name p, ofName name = .ok p ∧ p.text = "_" :=
  ⟨ofSanitized_eq_ok.2 rfl, fun ⟨name, p, given, eq⟩ => (exists_ofName_iff p).1 ⟨name, given⟩ eq⟩

end TablePrefix
end Tenancy
