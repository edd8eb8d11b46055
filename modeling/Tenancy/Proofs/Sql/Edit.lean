import Tenancy.Proofs.Text.Words
import Tenancy.Sql.Rule

/-!
# Edits of a text

Rules change a text by putting other stretches in place of some: an `Edit` says which, and what is
known of each place. A substitution is an edit wherever its pattern matches what it should
(`edit_substitute`). What an edit keeps can be found in both texts: `Edit.split` at a character that is
never put in, `Edit.suffix` at an ending of the new text.
-/

namespace Tenancy.Sql
open Text

/-- What is put where: for a stretch that stands after a text, given last character first, and in front
of another, what may come in its place. -/
abbrev Change := (before old new after : List Char) → Prop

/-- Whether the one text is the other with some stretches changed, where it stands after `before` and in
front of `rest`. -/
inductive Edit (P : Change) (rest : List Char) : (before cs ds : List Char) → Prop where
  | nil {before} : Edit P rest before [] []
  | keep {before cs ds} (c : Char) :
    Edit P rest (c :: before) cs ds →
    Edit P rest before (c :: cs) (c :: ds)
  | put {before old new cs ds} :
    old ≠ [] →
    P before old new (cs ++ rest) →
    Edit P rest (old.reverse ++ before) cs ds →
    Edit P rest before (old ++ cs) (new ++ ds)

namespace Edit
variable {P Q : Change} {rest before cs ds : List Char}

/-- Nothing may be changed. -/
lemma refl (cs : List Char) : Edit P rest before cs cs := by
  induction cs generalizing before with
  | nil => exact .nil
  | cons c cs ih => exact .keep c ih

/-- Characters that are kept. -/
lemma append (front : List Char) (h : Edit P rest (front.reverse ++ before) cs ds) :
    Edit P rest before (front ++ cs) (front ++ ds) := by
  induction front generalizing before with
  | nil => exact h
  | cons c front ih =>
    refine .keep c (ih ?_)
    rwa [List.reverse_cons, List.append_assoc] at h

/-- More may be known of the places of an edit from where they stand, and the whole from where it
goes on. -/
lemma imp {rest' : List Char} (e : Edit P rest before cs ds)
    (h : ∀ front old new after, cs = front ++ (old ++ after) →
      P (front.reverse ++ before) old new (after ++ rest) →
      Q (front.reverse ++ before) old new (after ++ rest')) :
    Edit Q rest' before cs ds := by
  induction e with
  | nil => exact .nil
  | @keep before cs ds c _ ih =>
    refine .keep c (ih fun front old new after eq place => ?_)
    have here := h (c :: front) old new after (congrArg (c :: ·) eq)
    rw [List.reverse_cons, List.append_assoc] at here
    exact here place
  | @put before old new cs ds some place _ ih =>
    refine .put some (h [] old new cs rfl place) (ih fun front old' new' after eq place' => ?_)
    have there := h (old ++ front) old' new' after (by rw [eq, List.append_assoc])
    rw [List.reverse_append, List.append_assoc] at there
    exact there place'

/-- What goes in only where something else does not start a text. -/
lemma head_eq (e : Edit P rest before cs ds) {c : Char}
    (new_ne : ∀ before old new after, P before old new after → new ≠ [] ∧ new.head? ≠ some c)
    (h : (ds ++ rest).head? = some c) : (cs ++ rest).head? = some c := by
  cases e with
  | nil => exact h
  | keep d _ => exact h
  | put some place _ =>
    obtain ⟨nonempty, other⟩ := new_ne _ _ _ _ place
    obtain ⟨d, new, rfl⟩ := List.exists_cons_of_ne_nil nonempty
    exact absurd h other

/-- Something is left, if every change leaves something. -/
lemma ne_nil (e : Edit P rest before cs ds)
    (new_ne : ∀ before old new after, P before old new after → new ≠ []) (some : cs ≠ []) :
    ds ≠ [] := by
  cases e with
  | nil => exact absurd rfl some
  | keep d _ => exact List.cons_ne_nil d _
  | put _ place _ =>
    intro nil
    exact new_ne _ _ _ _ place (List.append_eq_nil_iff.1 nil).1

/-- What is nothing then was nothing. -/
lemma eq_nil (e : Edit P rest before cs [])
    (new_ne : ∀ before old new after, P before old new after → new ≠ []) : cs = [] := by
  cases cs with
  | nil => rfl
  | cons c cs => exact absurd rfl (e.ne_nil new_ne (List.cons_ne_nil c cs))

/-- Nothing is made of nothing. -/
lemma of_nil (e : Edit P rest before [] ds) : ds = [] := by
  generalize none : ([] : List Char) = cs at e
  cases e with
  | nil => rfl
  | keep c _ => cases none
  | put some _ _ => exact absurd (List.append_eq_nil_iff.1 none.symm).1 some

/-- Where a word goes on after an edit, the new text ends in a word if the old one did. -/
lemma getLast_clear (e : Edit P rest before cs ds)
    (flow : ∀ before old new after, P before old new after →
      new ≠ [] ∧ (after.head?.any isWord → new.getLast?.any isWord))
    (word : rest.head?.any isWord) (h : ds.getLast?.any isWord = false) :
    cs.getLast?.any isWord = false := by
  have new_ne : ∀ before old new after, P before old new after → new ≠ [] :=
    fun _ _ _ _ place => (flow _ _ _ _ place).1
  have later {front piece : List Char} (some : piece ≠ []) :
      (front ++ piece).getLast? = piece.getLast? := by
    rw [List.getLast?_append, List.getLast?_eq_some_getLast some]
    rfl
  induction e with
  | nil => rfl
  | @keep before cs ds c e ih =>
    rcases List.eq_nil_or_concat cs with rfl | ⟨init, d, eq⟩
    · obtain rfl := e.of_nil
      exact h
    · have some : cs ≠ [] := by simp [eq]
      have h' : ([c] ++ ds).getLast?.any isWord = false := h
      rw [later (e.ne_nil new_ne some)] at h'
      show ([c] ++ cs).getLast?.any isWord = false
      rw [later some]
      exact ih h'
  | @put before old new cs ds _ place e ih =>
    rcases List.eq_nil_or_concat cs with rfl | ⟨init, d, eq⟩
    · obtain rfl := e.of_nil
      rw [List.append_nil, (flow _ _ _ _ place).2 word] at h
      cases h
    · have some : cs ≠ [] := by simp [eq]
      rw [later (e.ne_nil new_ne some)] at h
      rw [later some]
      exact ih h

/-- A character comes into a text only with a change. -/
lemma not_mem (e : Edit P rest before cs ds) {c : Char}
    (new_ne : ∀ before old new after, P before old new after → c ∉ new) (h : c ∉ cs) : c ∉ ds := by
  induction e with
  | nil => exact h
  | keep d _ ih =>
    simp only [List.mem_cons, not_or] at h ⊢
    exact ⟨h.1, ih h.2⟩
  | put _ place _ ih =>
    simp only [List.mem_append, not_or] at h ⊢
    exact ⟨new_ne _ _ _ _ place, ih h.2⟩

/-- An edit comes apart at a character that is never put in. -/
lemma split {front back : List Char} {c : Char} (e : Edit P rest before cs ds)
    (new_ne : ∀ before old new after, P before old new after → c ∉ new)
    (h : ds = front ++ c :: back) :
    ∃ front' back', cs = front' ++ c :: back' ∧
      Edit P (c :: back' ++ rest) before front' front ∧
      Edit P rest (c :: (front'.reverse ++ before)) back' back := by
  induction e generalizing front with
  | nil => cases front <;> cases h
  | @keep before cs ds d tail ih =>
    cases front with
    | nil =>
      obtain ⟨rfl, rfl⟩ := List.cons.inj h
      exact ⟨[], cs, rfl, .nil, tail⟩
    | cons d' front =>
      obtain ⟨rfl, rfl⟩ := List.cons.inj h
      obtain ⟨front', back', rfl, first, last⟩ := ih rfl
      refine ⟨d :: front', back', rfl, .keep d first, ?_⟩
      simpa using last
  | @put before old new cs ds some place tail ih =>
    rcases List.append_eq_append_iff.1 h with ⟨more, rfl, rfl⟩ | ⟨more, rfl, eq⟩
    · obtain ⟨front', back', rfl, first, last⟩ := ih rfl
      refine ⟨old ++ front', back', by rw [List.append_assoc], .put some ?_ first, ?_⟩
      · simpa using place
      · simpa using last
    · cases more with
      | nil =>
        obtain ⟨front', back', rfl, first, last⟩ := @ih [] eq.symm
        have place' : P before old front (front' ++ (c :: back' ++ rest)) := by simpa using place
        have both := Edit.put some place' first
        rw [List.append_nil] at both
        exact ⟨old ++ front', back', by rw [List.append_assoc], both, by simpa using last⟩
      | cons d more =>
        obtain ⟨rfl, -⟩ := List.cons.inj eq
        exact absurd (by simp) (new_ne _ _ _ _ place)

/-- An ending of the new text that holds the last character of nothing that is put in was there
before. -/
lemma suffix {front ending : List Char} (e : Edit P rest before cs ds)
    (new_ne : ∀ before old new after, P before old new after → ∃ c ∉ ending, new.getLast? = some c)
    (h : ds = front ++ ending) :
    ∃ front', cs = front' ++ ending ∧ Edit P (ending ++ rest) before front' front := by
  have nonempty {ending : List Char} (new_ne : ∀ before old new after, P before old new after →
      ∃ c ∉ ending, new.getLast? = some c) :
      ∀ before old new after, P before old new after → new ≠ [] := by
    rintro _ _ _ _ place rfl
    obtain ⟨c, -, last⟩ := new_ne _ _ _ _ place
    cases last
  induction e generalizing front ending with
  | nil =>
    obtain ⟨rfl, rfl⟩ := List.append_eq_nil_iff.1 h.symm
    exact ⟨[], rfl, .nil⟩
  | @keep before cs ds c tail ih =>
    cases front with
    | nil =>
      obtain rfl : c :: ds = ending := h
      have shorter : ∀ before old new after, P before old new after →
          ∃ d ∉ ds, new.getLast? = some d := by
        intro before old new after place
        obtain ⟨d, other, last⟩ := new_ne before old new after place
        exact ⟨d, fun mem => other (List.mem_cons_of_mem c mem), last⟩
      obtain ⟨front', rfl, first⟩ := ih shorter (show ds = [] ++ ds from rfl)
      obtain rfl := first.eq_nil (nonempty shorter)
      exact ⟨[], rfl, .nil⟩
    | cons d front =>
      obtain ⟨rfl, rfl⟩ := List.cons.inj h
      obtain ⟨front', rfl, first⟩ := ih new_ne rfl
      exact ⟨c :: front', rfl, .keep c first⟩
  | @put before old new cs ds some place tail ih =>
    rcases List.append_eq_append_iff.1 h with ⟨more, rfl, rfl⟩ | ⟨more, rfl, rfl⟩
    · obtain ⟨front', rfl, first⟩ := ih new_ne rfl
      exact ⟨old ++ front', by rw [List.append_assoc], .put some (by simpa using place) first⟩
    · cases more with
      | nil =>
        obtain ⟨front', rfl, first⟩ := ih new_ne (show ds = [] ++ ds from rfl)
        obtain rfl := first.eq_nil (nonempty new_ne)
        have whole : Edit P (ds ++ rest) before (old ++ []) (front ++ []) :=
          .put some (by simpa using place) .nil
        rw [List.append_nil, List.append_nil] at whole
        exact ⟨old, rfl, whole⟩
      | cons d more =>
        -- What is put in last would reach into the ending.
        obtain ⟨c, other, last⟩ := new_ne _ _ _ _ place
        have last : (d :: more).getLast? = Option.some c := by
          rwa [List.getLast?_append, List.getLast?_cons, Option.some_or, ← List.getLast?_cons] at last
        exact absurd (List.mem_append_left ds (List.mem_of_getLast? last)) other

end Edit

/-- Whether a pattern matches only where a change says so, and the match is what it says. -/
def Finds (find : Option Char → List Char → Option Match) (P : Change) : Prop :=
  ∀ before cs m, find before.head? cs = some m → ∃ old after,
    cs = old ++ after ∧ old ≠ [] ∧ m.length = old.length ∧ P before old m.text after

/-- To replace what is found is an edit. -/
lemma edit_substitute {find : Option Char → List Char → Option Match} {P : Change}
    (finds : Finds find P) (before cs : List Char) :
    Edit P [] before cs (substitute find before.head? cs) := by
  generalize first : before.head? = b
  fun_induction substitute find b cs generalizing before with
  | case1 b => exact .nil
  | case2 b c cs none ih => exact .keep c (ih (c :: before) rfl)
  | case3 b c cs m found ih =>
    obtain ⟨old, after, eq, some, length, place⟩ := finds before (c :: cs) m (first ▸ found)
    obtain ⟨d, old, rfl⟩ := List.exists_cons_of_ne_nil some
    obtain ⟨rfl, rfl⟩ : c = d ∧ cs = old ++ after := List.cons.inj eq
    have drop : (old ++ after).drop (m.length - 1) = after := by simp [length]
    have last : ((c :: old).reverse ++ before).head? = (c :: (old ++ after))[m.length - 1]? := by
      rw [length, List.head?_append, List.head?_reverse, List.getLast?_eq_getElem?,
        ← List.cons_append, List.getElem?_append_left (by simp)]
      simp
    have tail := ih _ last
    rw [drop] at tail ⊢
    rw [← List.cons_append]
    exact .put some (by rwa [List.append_nil]) tail

/-- A character that is replaced wherever it stands. -/
def Replaces (c : Char) (text : List Char) : Change := fun _ old new _ => old = [c] ∧ new = text

/-- So it is to replace a character. -/
lemma edit_replaceText (c : Char) (text before cs : List Char) :
    Edit (Replaces c text) [] before cs (replaceText [c] text cs) := by
  induction cs generalizing before with
  | nil =>
    rw [replaceText]
    exact .nil
  | cons d cs ih =>
    rw [replaceText, if_neg (by simp)]
    split
    · next eq =>
      obtain rfl : c = d := by simpa using eq
      rw [← List.singleton_append]
      exact .put (List.cons_ne_nil c []) ⟨rfl, rfl⟩ (ih _)
    · exact .keep d (ih _)

end Tenancy.Sql
