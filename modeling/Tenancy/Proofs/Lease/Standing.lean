import Tenancy.Proofs.Sql.Cut
import Tenancy.Proofs.Sql.Marking

/-!
# Names that stand in a text

A lease marks the names that stand in the code of a statement as whole words, in whatever case. Where none
stands in a text (`StandsIn`), marking leaves the text as it is (`markWords_eq_self`). If nothing but a dollar
sign can open a quotation in a statement, what stands in its code stands in the statement
(`Cut.not_standsIn`), so that a lease leaves alone what has no name in it, whichever parts of it are quoted.
-/

namespace Tenancy
open Text Sql
variable {names : List (List Char)} {mark front w back cs ds : List Char} {before : Option Char}

/-- Whether a stretch of a text, after the character `before` and in front of `back`, is one of the names in
some case, and a whole word. -/
structure StandsAt (names : List (List Char)) (before : Option Char) (w back : List Char) : Prop where
  named : isNamed names w
  starts : boundary before (w ++ back).head?
  ends : boundary (w.getLast?.or before) back.head?

/-- Whether one of the names stands in a text as a whole word, in whatever case, after the character
`before`. -/
def StandsIn (names : List (List Char)) (before : Option Char) (cs : List Char) : Prop :=
  ∃ front w back, cs = front ++ (w ++ back) ∧ StandsAt names (front.getLast?.or before) w back

/-- The last character of a text, or the one in front of it, is that of the rest or the first. -/
lemma getLast_cons_or (c : Char) (cs : List Char) (before : Option Char) :
    (c :: cs).getLast?.or before = cs.getLast?.or (some c) := by
  rw [List.getLast?_cons]
  cases cs.getLast? with
  | none => rfl
  | some d => rfl

/-- A name that is found at the head of a text stands there. -/
lemma standsAt_of_wordLength {n : Nat} (h : wordLength? names before cs = some n) :
    ∃ w back, cs = w ++ back ∧ w.length = n ∧ StandsAt names before w back := by
  rw [wordLength_eq] at h
  split at h
  · next starts =>
    obtain ⟨name, found, rfl⟩ := Option.map_eq_some_iff.1 h
    have here := List.find?_some found
    rw [stands] at here
    split at here
    · cases here
    · next back read =>
      obtain ⟨w, rfl, folds⟩ := afterFolded_eq_some read
      have length : w.length = name.length := by simpa using congrArg List.length folds
      rw [← length, List.take_left] at here
      exact ⟨w, back, rfl, length, isNamed_iff.2 ⟨name, List.mem_of_find?_eq_some found, folds.symm⟩,
        starts, here⟩
  · cases h

namespace StandsIn

/-- What stands behind a character stands in the text that starts with it. -/
lemma cons {c : Char} (h : StandsIn names (some c) cs) : StandsIn names before (c :: cs) := by
  obtain ⟨front, w, back, rfl, here⟩ := h
  refine ⟨c :: front, w, back, rfl, ?_⟩
  rwa [getLast_cons_or]

/-- What stands behind a text stands in all of it. -/
lemma append_left (h : StandsIn names (front.getLast?.or before) cs) :
    StandsIn names before (front ++ cs) := by
  induction front generalizing before with
  | nil => exact h
  | cons c front ih =>
    rw [getLast_cons_or] at h
    exact cons (ih h)

/-- Only whether the character in front is one of words counts. -/
lemma congr {before' : Option Char} (h : StandsIn names before cs)
    (same : before.any isWord = before'.any isWord) : StandsIn names before' cs := by
  obtain ⟨front, w, back, rfl, here⟩ := h
  have around : (front.getLast?.or before).any isWord = (front.getLast?.or before').any isWord := by
    cases front.getLast? with
    | none => exact same
    | some d => rfl
  have within : (w.getLast?.or (front.getLast?.or before)).any isWord =
      (w.getLast?.or (front.getLast?.or before')).any isWord := by
    cases w.getLast? with
    | none => exact around
    | some d => rfl
  obtain ⟨named, starts, ends⟩ := here
  refine ⟨front, w, back, rfl, named, ?_, ?_⟩
  · rwa [boundary, ← around]
  · rwa [boundary, ← within]

/-- What stands in a text stands in it also where no word goes on behind it. -/
lemma append_right (h : StandsIn names before cs) (gap : ds.head?.any isWord = false) :
    StandsIn names before (cs ++ ds) := by
  have heads (xs : List Char) : (xs ++ ds).head?.any isWord = xs.head?.any isWord := by
    cases xs with
    | nil => exact gap
    | cons c xs => rfl
  obtain ⟨front, w, back, rfl, named, starts, ends⟩ := h
  refine ⟨front, w, back ++ ds, by simp, named, ?_, ?_⟩
  · rwa [boundary, ← List.append_assoc, heads]
  · rwa [boundary, heads]

/-- Where what is named is a word, it stands in a text as one of its words. -/
lemma exists_word (h : StandsIn names before cs)
    (word : ∀ w, isNamed names w → (∀ c ∈ w, c ∈ cs) → IsWordName w) : ∃ w ∈ words cs, isNamed names w := by
  obtain ⟨front, w, back, rfl, named, starts, ends⟩ := h
  obtain ⟨some, chars⟩ := word w named fun c mem =>
    List.mem_append_right front (List.mem_append_left back mem)
  have first : (w ++ back).head?.any isWord := by
    obtain ⟨c, w, rfl⟩ := List.exists_cons_of_ne_nil some
    exact (Bool.and_eq_true_iff.1 chars).1
  have last : (w.getLast?.or (front.getLast?.or before)).any isWord := by
    rw [List.getLast?_eq_some_getLast some]
    exact List.all_eq_true.1 chars _ (List.getLast_mem some)
  have gap : front.getLast?.any isWord = false := by
    rw [boundary, first] at starts
    cases final : front.getLast? with
    | none => rfl
    | some d => simpa [final] using starts
  rw [boundary, last] at ends
  exact ⟨w, mem_words gap some chars (by simpa using ends), named⟩

end StandsIn

/-- Where no name stands, nothing is marked. -/
theorem markWords_eq_self (clear : ¬ StandsIn names before cs) (ended : Bool) :
    markWords names mark ended before cs = cs := by
  have head {before : Option Char} {cs : List Char} {n : Nat} (found : wordLength? names before cs = some n) :
      StandsIn names before cs := by
    obtain ⟨w, back, eq, -, here⟩ := standsAt_of_wordLength found
    exact ⟨[], w, back, eq, here⟩
  fun_induction markWords names mark ended before cs with
  | case1 ended before found => exact absurd (head found.1) clear
  | case2 => rfl
  | case3 ended before c cs none ih => rw [ih fun standing => clear standing.cons]
  | case4 ended before c cs found => exact absurd (head found) clear
  | case5 ended before c cs n found => exact absurd (head found) clear

/-- Marking goes on behind a text at none of whose places a name is found. -/
lemma markWords_append (none : ∀ a b, front = a ++ b → b ≠ [] →
      wordLength? names (a.getLast?.or before) (b ++ cs) = none) (some : front ≠ []) (ended : Bool) :
    markWords names mark ended before (front ++ cs) =
      front ++ markWords names mark false front.getLast? cs := by
  induction front generalizing before ended with
  | nil => exact absurd rfl some
  | cons c front ih =>
    have here : wordLength? names before (c :: (front ++ cs)) = Option.none :=
      none [] (c :: front) rfl (List.cons_ne_nil c front)
    rw [List.cons_append, markWords, here]
    cases front with
    | nil => rfl
    | cons d front =>
      refine congrArg (c :: ·) (ih (fun a b eq some' => ?_) (List.cons_ne_nil d front) false)
      rw [← getLast_cons_or]
      exact none (c :: a) b (congrArg (c :: ·) eq) some'

/-! ## Statements with dollar signs -/

namespace Sql

/-- A dollar-quoted part runs to the end, or ends in a dollar sign. -/
lemma getLast_of_quotedAt {b taken rest : List Char} {kind : LexemeKind}
    (found : quotedAt? b cs = some (kind, taken, rest)) (chars : ∀ c ∈ cs, isBare c ∨ c = '$') :
    rest = [] ∨ taken.getLast? = some '$' := by
  cases cs with
  | nil => cases found
  | cons c cs =>
    rcases chars c List.mem_cons_self with bare | rfl
    · rw [quotedAt_of_isBare bare] at found
      cases found
    · rw [quotedAt?, if_neg (by decide), if_neg (by decide), if_neg fun dash => absurd dash.1 (by decide),
        if_neg fun slash => absurd slash.1 (by decide)] at found
      split at found
      · obtain ⟨⟨tag, body⟩, -, eq⟩ := Option.map_eq_some_iff.1 found
        cases eq
        refine (throughText_cases _ body).imp_right fun closes => ?_
        obtain ⟨front, ends⟩ := closes
        rw [← ends, ← List.append_assoc, ← List.append_assoc, List.getLast?_concat]
      · cases found

/-- A quotation with code behind it ends in a dollar sign. -/
lemma Cut.getLast_of_code {b taken : List Char} {kind : LexemeKind} {l : Lexeme} {ls : List Lexeme}
    (cut : Cut (taken.reverse ++ b) ls) (found : quotedAt? b cs = some (kind, taken, text ls))
    (chars : ∀ c ∈ cs, isBare c ∨ c = '$') (first : ls.head? = some l) (code : l.kind = .code) :
    taken.getLast? = some '$' := by
  rcases getLast_of_quotedAt found chars with all | last
  · cases cut with
    | nil => cases first
    | quoted found' =>
      cases first
      exact absurd code (quotedAt_append found').2
    | code some => exact absurd (List.append_eq_nil_iff.1 all).1 some
  · exact last

/-- If only dollar signs can open a quotation in a statement, no name stands in its code that does not stand
in the statement. -/
lemma Cut.not_standsIn {b : List Char} {ls : List Lexeme} (cut : Cut b ls)
    (chars : ∀ c ∈ text ls, isBare c ∨ c = '$')
    (starts : ∀ l, ls.head? = some l → l.kind = .code → b.head?.any isWord = false)
    (clear : ¬ StandsIn names b.head? (text ls)) :
    ∀ l ∈ ls, l.kind = .code → ¬ StandsIn names none l.text := by
  -- Code has no word character in front of it: the statement starts with it, or a dollar sign is there.
  induction cut with
  | nil => exact fun l mem => absurd mem List.not_mem_nil
  | @quoted b kind taken ls found tail ih =>
    have whole : text (⟨kind, taken⟩ :: ls) = taken ++ text ls := rfl
    rw [whole] at chars clear
    have head : (taken.reverse ++ b).head? = taken.getLast?.or b.head? := by
      rw [List.head?_append, List.head?_reverse]
    refine List.forall_mem_cons.2 ⟨fun code => absurd code (quotedAt_append found).2, ih ?_ ?_ ?_⟩
    · exact fun c mem => chars c (List.mem_append_right taken mem)
    · intro l first code
      rw [head, tail.getLast_of_code found chars first code, Option.some_or]
      decide
    · intro standing
      rw [head] at standing
      exact clear standing.append_left
  | @code b cs ls some inside first tail ih =>
    have whole : text (⟨.code, cs⟩ :: ls) = cs ++ text ls := rfl
    rw [whole] at chars clear
    have outside := starts _ rfl rfl
    have gap : (text ls).head?.any isWord = false := by
      rcases tail.isSome_quotedAt first with quoted | none
      · exact clear_of_quotedAt quoted
      · rw [none]
        rfl
    refine List.forall_mem_cons.2 ⟨fun _ standing => clear ?_, ih ?_ ?_ ?_⟩
    · have behind : StandsIn names b.head? cs := standing.congr outside.symm
      exact behind.append_right gap
    · exact fun c mem => chars c (List.mem_append_right cs mem)
    · exact fun l head code => absurd code (first l head)
    · intro standing
      rw [List.head?_append, List.head?_reverse] at standing
      exact clear standing.append_left

end Sql

end Tenancy
