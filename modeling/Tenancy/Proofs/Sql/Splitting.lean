import Tenancy.Proofs.Sql.Ordinary

/-!
# Substitutions come apart

A pattern that matches exactly where a change says so (`FindsAll`) can be followed on both sides of a place in a
text. If no match goes across, what is put in on the one side has nothing to do with the other
(`FindsAll.substitute_append`), so a stretch that no match touches stays where it is, between what becomes of
the text in front and of the text behind (`FindsAll.substitute_spares`). The patterns of the rules for legacy
statements are of that kind.
-/

namespace Tenancy.Sql
open Text

/-- Whether a pattern matches exactly where a change says so. A match starts where no word goes on, starts and
ends with a character of a word, and goes with the text around it only as far as that has to do with words. -/
structure FindsAll (find : Option Char → List Char → Option Match) (P : Change) : Prop where
  finds : Finds find P
  found : ∀ {before old new after : List Char}, P before old new after →
    find before.head? (old ++ after) = some ⟨old.length, new⟩
  starts : ∀ {before old new after : List Char}, P before old new after →
    Clear before ∧ old.head?.any isWord
  ends : ∀ {before old new after : List Char}, P before old new after → old.getLast?.any isWord
  moves : ∀ {before before' old new after after' : List Char}, P before old new after →
    Clear before' → after'.head? = after.head? ∨ Clear after' → P before' old new after'

/-- Whether no word goes on at a place does not depend on what is farther away. -/
lemma apart_of_append {front cs ds : List Char} (h : Apart (front ++ cs) ds) : Apart cs ds := by
  cases cs with
  | nil => exact .inl rfl
  | cons c cs =>
    rw [Apart, List.getLast?_append_of_ne_nil _ (List.cons_ne_nil c cs)] at h
    exact h

/-! ## One place -/

section Substitute
variable {find : Option Char → List Char → Option Match} {before : Option Char} {c : Char}
  {cs old new after : List Char}

/-- Nothing is replaced in the empty text. -/
lemma substitute_nil : substitute find before [] = [] := by rw [substitute]

/-- A character where nothing is found stays. -/
lemma substitute_keep (none : find before (c :: cs) = none) :
    substitute find before (c :: cs) = c :: substitute find (some c) cs := by
  rw [substitute, none]

/-- What is found is replaced, and what follows it is looked at from there. -/
lemma substitute_put (filled : old ≠ []) (found : find before (old ++ after) = some ⟨old.length, new⟩) :
    substitute find before (old ++ after) = new ++ substitute find old.getLast? after := by
  obtain ⟨c, old, rfl⟩ := List.exists_cons_of_ne_nil filled
  have last : (c :: (old ++ after))[(c :: old).length - 1]? = (c :: old).getLast? := by
    rw [← List.cons_append, List.getElem?_append_left (by simp), ← List.getLast?_eq_getElem?]
  rw [List.cons_append] at found ⊢
  rw [substitute, found]
  dsimp only
  rw [last]
  simp

end Substitute

variable {find : Option Char → List Char → Option Match} {P : Change} {before x y z s : List Char}

namespace FindsAll

/-- What is found is not empty. -/
lemma ne_nil (all : FindsAll find P) {old new after : List Char} (place : P before old new after) :
    old ≠ [] := by
  rintro rfl
  cases (all.starts place).2

/-- A match is one in a longer text if no word goes on there. -/
lemma extend (all : FindsAll find P) {old new after : List Char} (place : P before old new after)
    (apart : Apart (old ++ after) z) : P before old new (after ++ z) := by
  refine all.moves place (all.starts place).1 ?_
  cases after with
  | cons c after => exact .inl rfl
  | nil =>
    rw [List.append_nil] at apart
    obtain clear | clear := apart
    · rw [all.ends place] at clear
      cases clear
    · exact .inr clear

/-- What is found in front of a longer text is found in front of its first part. -/
lemma shorten (all : FindsAll find P) {old new after : List Char} (place : P before old new (after ++ z)) :
    P before old new after := by
  refine all.moves place (all.starts place).1 ?_
  cases after with
  | cons c after => exact .inl rfl
  | nil => exact .inr rfl

/-- Where no match goes across the end of a text, what follows it changes nothing of what is found in it. -/
lemma find_append (all : FindsAll find P) (apart : Apart x z)
    (whole : ∀ old new after, x ++ z = old ++ after → P before old new after → old <+: x) :
    find before.head? (x ++ z) = find before.head? x := by
  cases here : find before.head? x with
  | some m =>
    obtain ⟨old, after, rfl, -, length, place⟩ := all.finds before x m here
    rw [List.append_assoc, all.found (all.extend place apart), ← length]
  | none =>
    cases there : find before.head? (x ++ z) with
    | none => rfl
    | some m =>
      obtain ⟨old, after, eq, -, -, place⟩ := all.finds before (x ++ z) m there
      obtain ⟨tail, rfl⟩ := whole old m.text after eq place
      rw [List.append_assoc] at eq
      obtain rfl := List.append_cancel_left eq
      rw [all.found (all.shorten place)] at here
      cases here

/-- A text without matches across its end is changed as if nothing followed. -/
theorem substitute_append_from (all : FindsAll find P) (apart : Apart x z)
    (whole : ∀ lead old new after, x ++ z = lead ++ (old ++ after) →
      P (lead.reverse ++ before) old new after → lead ++ old <+: x ∨ x <+: lead) :
    substitute find before.head? (x ++ z) =
      substitute find before.head? x ++ substitute find (x.reverse ++ before).head? z := by
  induction size : x.length using Nat.strong_induction_on generalizing x before with
  | h n ih =>
    subst size
    by_cases none : x = []
    · subst none
      rw [substitute_nil]
      rfl
    have same : find before.head? (x ++ z) = find before.head? x := by
      refine all.find_append apart fun old new after eq place => ?_
      obtain inside | beyond := whole [] old new after eq place
      · exact inside
      · exact absurd (List.prefix_nil.1 beyond) none
    cases found : find before.head? x with
    | none =>
      obtain ⟨c, cs, rfl⟩ := List.exists_cons_of_ne_nil none
      have apart' : Apart cs z := apart_of_append (show Apart ([c] ++ cs) z from apart)
      have whole' : ∀ lead old new after, cs ++ z = lead ++ (old ++ after) →
          P (lead.reverse ++ c :: before) old new after → lead ++ old <+: cs ∨ cs <+: lead := by
        intro lead old new after eq place
        have here := whole (c :: lead) old new after (congrArg (c :: ·) eq) (by simpa using place)
        simpa only [List.cons_append, List.prefix_cons_inj] using here
      have later := ih cs.length (by simp) apart' whole' rfl
      rw [List.cons_append] at same
      rw [List.cons_append, substitute_keep (same.trans found), substitute_keep found]
      simpa using later
    | some m =>
      obtain ⟨old, after, rfl, filled, length, place⟩ := all.finds before x m found
      have apart' : Apart after z := apart_of_append apart
      have whole' : ∀ lead old' new after', after ++ z = lead ++ (old' ++ after') →
          P (lead.reverse ++ (old.reverse ++ before)) old' new after' →
            lead ++ old' <+: after ∨ after <+: lead := by
        intro lead old' new after' eq place
        have here := whole (old ++ lead) old' new after' (by simp [eq]) (by simpa using place)
        simpa only [List.append_assoc, List.prefix_append_right_inj] using here
      have shorter : after.length < (old ++ after).length := by
        have := List.length_pos_iff.2 filled
        rw [List.length_append]
        omega
      have later := ih after.length shorter apart' whole' rfl
      have last : (old.reverse ++ before).head? = old.getLast? := by
        rw [List.head?_append, List.head?_reverse, List.getLast?_eq_some_getLast filled]
        rfl
      have taken : find before.head? (old ++ after) = some ⟨old.length, m.text⟩ := by
        rw [found, ← length]
      rw [last] at later
      rw [List.append_assoc] at same
      rw [List.append_assoc, substitute_put filled (same.trans taken), substitute_put filled taken, later]
      simp

/-- A place knows no more of what stands before it than whether a word goes on. -/
lemma find_from (all : FindsAll find P) {before' : List Char} (apart : Clear before' ∨ Clear z) {m : Match}
    (found : find before.head? z = some m) : find before'.head? z = some m := by
  obtain ⟨old, after, rfl, filled, length, place⟩ := all.finds before z m found
  obtain clear | clear := apart
  · rw [all.found (all.moves place clear (.inl rfl)), ← length]
  · have word := (all.starts place).2
    obtain ⟨c, old, rfl⟩ := List.exists_cons_of_ne_nil filled
    rw [List.head?_cons, Option.any_some, show isWord c = false from clear] at word
    cases word

/-- What is in front of a text makes no difference where no word goes on. -/
lemma substitute_from (all : FindsAll find P) (apart : Clear before ∨ Clear z) :
    substitute find before.head? z = substitute find none z := by
  have same : find before.head? z = find none z := by
    cases here : find before.head? z with
    | some m =>
      have there : find ([] : List Char).head? z = some m := all.find_from (.inl rfl) here
      exact there.symm
    | none =>
      cases there : find none z with
      | none => rfl
      | some m =>
        have there : find ([] : List Char).head? z = some m := there
        rw [all.find_from apart there] at here
        cases here
  cases z with
  | nil => rw [substitute_nil, substitute_nil]
  | cons c cs => rw [substitute, substitute, same]

/-- A substitution comes apart where no word goes on and no match goes across. -/
theorem substitute_append (all : FindsAll find P) (apart : Apart x z)
    (whole : ∀ lead old new after, x ++ z = lead ++ (old ++ after) → P lead.reverse old new after →
      lead ++ old <+: x ∨ x <+: lead) :
    substitute find none (x ++ z) = substitute find none x ++ substitute find none z := by
  have split : substitute find ([] : List Char).head? (x ++ z) =
      substitute find ([] : List Char).head? x ++ substitute find (x.reverse ++ []).head? z :=
    all.substitute_append_from apart (by simpa only [List.append_nil] using whole)
  have later : substitute find x.reverse.head? z = substitute find none z := by
    refine all.substitute_from ?_
    rwa [Clear, List.head?_reverse]
  rw [List.append_nil, later] at split
  exact split

end FindsAll

/-! ## A stretch that stays -/

/-- Whether no match touches a stretch of a text: each ends in front of it or starts behind it. -/
def Spares (P : Change) (x s y : List Char) : Prop :=
  ∀ lead old new after, x ++ (s ++ y) = lead ++ (old ++ after) → P lead.reverse old new after →
    lead ++ old <+: x ∨ x ++ s <+: lead

namespace FindsAll

/-- What matches within a stretch and what follows it matches in the whole text. -/
lemma moved (all : FindsAll find P) (filled : s ≠ []) (apart : Apart x s) {lead old new after : List Char}
    (eq : s ++ y = lead ++ (old ++ after)) (place : P lead.reverse old new after) :
    P (x ++ lead).reverse old new after := by
  refine all.moves place ?_ (.inl rfl)
  rw [List.reverse_append]
  obtain rfl | ⟨lead, c, rfl⟩ := List.eq_nil_or_concat lead
  · obtain clear | clear := apart
    · simpa [Clear] using clear
    · -- A match starts with a character of a word, and the stretch does not.
      have word := (all.starts place).2
      obtain ⟨c, s, rfl⟩ := List.exists_cons_of_ne_nil filled
      obtain ⟨d, old, rfl⟩ := List.exists_cons_of_ne_nil (all.ne_nil place)
      obtain ⟨rfl, -⟩ := List.cons.inj eq
      rw [List.head?_cons, Option.any_some, show isWord c = false from clear] at word
      cases word
  · simpa [Clear] using (all.starts place).1

/-- A match that a stretch is spared by does not start in it. -/
lemma prefix_of_spares (all : FindsAll find P) (filled : s ≠ []) (spares : Spares P x s y) (apart : Apart x s)
    {lead old new after : List Char} (eq : s ++ y = lead ++ (old ++ after))
    (place : P lead.reverse old new after) : s <+: lead := by
  have some := List.length_pos_iff.2 (all.ne_nil place)
  obtain inside | beyond := spares (x ++ lead) old new after (by rw [eq, List.append_assoc])
    (all.moved filled apart eq place)
  · have short := inside.length_le
    simp only [List.length_append] at short
    omega
  · exact (List.prefix_append_right_inj x).1 beyond

/-- What no match touches stays where it is. -/
theorem substitute_spares (all : FindsAll find P) (filled : s ≠ []) (spares : Spares P x s y)
    (front : Apart x s) (back : Apart s y) :
    substitute find none (x ++ (s ++ y)) = substitute find none x ++ (s ++ substitute find none y) := by
  have first : substitute find none (x ++ (s ++ y)) =
      substitute find none x ++ substitute find none (s ++ y) := by
    refine all.substitute_append ?_ fun lead old new after eq place => ?_
    · obtain ⟨c, s, rfl⟩ := List.exists_cons_of_ne_nil filled
      exact front
    · exact (spares lead old new after eq place).imp_right (List.prefix_append x s).trans
  have second : substitute find none (s ++ y) = substitute find none s ++ substitute find none y :=
    all.substitute_append back fun lead old new after eq place =>
      .inr (all.prefix_of_spares filled spares front eq place)
  have third : substitute find none s = s := by
    refine substitute_eq_self fun lead c rest eq => ?_
    rw [Option.or_none, ← List.head?_reverse]
    cases found : find lead.reverse.head? (c :: rest) with
    | none => rfl
    | some m =>
      obtain ⟨old, after, eq', some, -, place⟩ := all.finds lead.reverse (c :: rest) m found
      rw [eq'] at eq
      subst eq
      have apart : Apart (old ++ after) y := apart_of_append back
      have whole : lead ++ (old ++ after) ++ y = lead ++ (old ++ (after ++ y)) := by simp
      have beyond := all.prefix_of_spares filled spares front whole (all.extend place apart)
      have long := beyond.length_le
      have pos := List.length_pos_iff.2 some
      simp only [List.length_append] at long
      omega
  rw [first, second, third]

/-- A stretch is spared by what has none of its characters. -/
lemma spares_of_not_mem (all : FindsAll find P) (filled : s ≠ [])
    (foreign : ∀ before old new after, P before old new after → ∀ c ∈ s, c ∉ old) : Spares P x s y := by
  intro lead old new after eq place
  by_contra touches
  rw [not_or] at touches
  have whole : lead ++ old <+: x ++ (s ++ y) := ⟨after, by rw [eq, List.append_assoc]⟩
  have far : x.length < lead.length + old.length := by
    by_contra short
    refine touches.1 (List.prefix_of_prefix_length_le whole (List.prefix_append _ _) ?_)
    rw [List.length_append]
    omega
  have near : lead.length < x.length + s.length := by
    by_contra long
    have stretch : x ++ s <+: x ++ (s ++ y) := ⟨y, List.append_assoc ..⟩
    refine touches.2 (List.prefix_of_prefix_length_le stretch ⟨old ++ after, eq.symm⟩ ?_)
    rw [List.length_append]
    omega
  -- The match and the stretch have the character at this place in common.
  have pos := List.length_pos_iff.2 filled
  have pos' := List.length_pos_iff.2 (all.ne_nil place)
  obtain ⟨k, hk⟩ : ∃ k, k = max lead.length x.length := ⟨_, rfl⟩
  have inside : k - x.length < s.length := by omega
  have inside' : k - lead.length < old.length := by omega
  have same := congrArg (·[k]?) eq
  simp only [List.getElem?_append] at same
  rw [if_neg (by omega), if_pos inside, if_neg (by omega), if_pos inside', List.getElem?_eq_getElem inside,
    List.getElem?_eq_getElem inside', Option.some.injEq] at same
  exact foreign _ _ _ _ place _ (List.getElem_mem inside) (same ▸ List.getElem_mem inside')

end FindsAll

/-! ## Borders -/

section Borders
variable {rest cs ds : List Char}

/-- A word has no part in front that ends where none goes on. -/
lemma Reads.not_across {word : String} (reads : Reads word (cs ++ ds)) (filled : cs ≠ [])
    (ends : (rest ++ cs).getLast?.any isWord = false) : False := by
  have chars := reads.chars
  rw [List.all_append, Bool.and_eq_true] at chars
  have word : isWord (cs.getLast filled) := List.all_eq_true.1 chars.1 _ (List.getLast_mem filled)
  rw [List.getLast?_append_of_ne_nil _ filled, List.getLast?_eq_some_getLast filled, Option.any_some, word] at ends
  cases ends

/-- Behind something the last character is that of what follows, if anything does. -/
lemma getLast_append {front back front' back' : List Char} (same : back'.getLast? = back.getLast?)
    (filled : back ≠ []) : (front' ++ back').getLast? = (front ++ back).getLast? := by
  have filled' : back' ≠ [] := by
    rintro rfl
    rw [List.getLast?_eq_some_getLast filled] at same
    cases same
  rw [List.getLast?_append_of_ne_nil _ filled, List.getLast?_append_of_ne_nil _ filled', same]

/-- An edit of what starts with words keeps the start of a text with none there. -/
lemma Edit.head_eq_of_clear (e : Edit P rest before cs ds)
    (starts : ∀ before old new after, P before old new after → old.head?.any isWord) (clear : Clear cs) :
    ds.head? = cs.head? := by
  cases e with
  | nil => rfl
  | keep c _ => rfl
  | @put _ old new cs ds filled place _ =>
    have word := starts _ _ _ _ place
    obtain ⟨c, old, rfl⟩ := List.exists_cons_of_ne_nil filled
    rw [List.head?_cons, Option.any_some, show isWord c = false from clear] at word
    cases word

/-- An edit of what ends with words keeps the end of a text with none there. -/
lemma Edit.getLast_eq_of_clear (e : Edit P rest before cs ds)
    (ends : ∀ before old new after, P before old new after → old.getLast?.any isWord)
    (clear : cs.getLast?.any isWord = false) : ds.getLast? = cs.getLast? := by
  induction e with
  | nil => rfl
  | @keep before cs ds c e ih =>
    by_cases none : cs = []
    · subst none
      obtain rfl := e.of_nil
      rfl
    · rw [← List.singleton_append, List.getLast?_append_of_ne_nil _ none] at clear
      rw [← List.singleton_append, ← @List.singleton_append _ c cs]
      exact getLast_append (ih clear) none
  | @put before old new cs ds filled place e ih =>
    by_cases none : cs = []
    · subst none
      rw [List.append_nil, ends _ _ _ _ place] at clear
      cases clear
    · rw [List.getLast?_append_of_ne_nil _ none] at clear
      exact getLast_append (ih clear) none

/-- A text that starts with no word starts as before. -/
lemma FindsAll.head_substitute (all : FindsAll find P) (clear : Clear cs) :
    (substitute find none cs).head? = cs.head? :=
  (edit_substitute all.finds [] cs).head_eq_of_clear (fun _ _ _ _ place => (all.starts place).2) clear

/-- A text that ends with no word ends as before. -/
lemma FindsAll.getLast_substitute (all : FindsAll find P) (clear : cs.getLast?.any isWord = false) :
    (substitute find none cs).getLast? = cs.getLast? :=
  (edit_substitute all.finds [] cs).getLast_eq_of_clear (fun _ _ _ _ place => all.ends place) clear

end Borders

end Tenancy.Sql
