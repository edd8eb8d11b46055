import Tenancy.Proofs.Sql.Cut
import Tenancy.Proofs.Sql.Edit

/-!
# Edits that leave the cut alone

Where an edit of a stretch of code puts something in, what follows may be read otherwise: a quotation
that starts there looks back at the last character, and a tag between two dollar signs can come about.
An edit is `Mild` if the first is no matter, and leaves things `Untagged` if the second does not happen.
What such an edit makes of a stretch of code can stand in its place: `Edit.stands`.
-/

namespace Tenancy.Sql
open Text

/-- Whether a change in code is no matter to what follows it. -/
structure Mild (old new after : List Char) : Prop where
  some : new ≠ []
  plain : isPlain new
  star : new.head? ≠ Option.some '*'
  line : old.head? ≠ Option.some '\n'
  looks : looksBack after → old.getLast?.any isNameChar = new.getLast?.any isNameChar
  escape : after.head? = Option.some apostrophe →
    ∀ before before', isEscapeLiteral (old.reverse ++ before) = isEscapeLiteral (new.reverse ++ before')

/-- Whether a change makes no tag of what was none. -/
structure Untagged (old new : List Char) : Prop where
  dollar : '$' ∉ new
  name : new.all isNameChar → old.all isNameChar
  digit : new.all isNameChar → old.head?.any Char.isDigit → new.head?.any Char.isDigit

/-- What has no dollar sign and is no name makes no tag. -/
lemma Untagged.of_not_name {old new : List Char} (dollar : '$' ∉ new)
    (gap : new.all isNameChar = false) : Untagged old new where
  dollar := dollar
  name h := absurd h (by simp [gap])
  digit h := absurd h (by simp [gap])

/-- What is put in starts with no mark. -/
lemma Mild.head_ne {old new after : List Char} (h : Mild old new after) {mark : Char}
    (marks : mark = apostrophe ∨ mark = '"' ∨ mark = '-') : new.head? ≠ Option.some mark := by
  intro head
  obtain ⟨more, rfl⟩ := List.head?_eq_some_iff.1 head
  have first := (Bool.and_eq_true_iff.1 h.plain).1
  rw [Bool.or_eq_true] at first
  rcases marks with rfl | rfl | rfl <;> rcases first with bare | dollar <;>
    first | exact absurd bare (by decide) | exact absurd (Bool.and_eq_true_iff.1 dollar).1 (by decide)

/-- What is put in looks back only where something did. -/
lemma Mild.not_looksBack {old new after : List Char} (h : Mild old new after) {more : List Char}
    (mark : more.head? = Option.some apostrophe → after.head? = Option.some apostrophe) :
    looksBack (new ++ more) = false := by
  obtain ⟨c, new, rfl⟩ := List.exists_cons_of_ne_nil h.some
  have first := (Bool.and_eq_true_iff.1 h.plain).1
  rw [List.cons_append, looksBack, Bool.or_eq_false_iff, Bool.and_eq_false_iff, Bool.and_eq_false_iff]
  constructor
  · rw [Bool.or_eq_true] at first
    rcases first with bare | dollar
    · refine .inl (decide_eq_false ?_)
      rintro rfl
      exact absurd bare (by decide)
    · have digit : (new ++ more).head?.any Char.isDigit := by
        cases new with
        | nil => simp at dollar
        | cons d new => exact (Bool.and_eq_true_iff.1 dollar).2
      exact .inr (by rw [dollarTag_digit digit]; rfl)
  · cases letter : (c = 'E' || c = 'e' : Bool) with
    | false => exact .inl rfl
    | true =>
      refine .inr (decide_eq_false fun quote => ?_)
      cases new with
      | nil =>
        -- The letter by itself would be read by what it follows.
        have same := h.escape (mark quote) []
        have alone := (same []).symm.trans (same ['a'])
        rw [List.reverse_singleton, List.append_nil, List.singleton_append, isEscapeLiteral,
          isEscapeLiteral, letter] at alone
        exact absurd alone (by decide)
      | cons d new =>
        obtain rfl : d = apostrophe := by simpa using quote
        have second := (Bool.and_eq_true_iff.1 h.plain).2
        rw [isPlain] at second
        exact absurd (Bool.and_eq_true_iff.1 second).1 (by simp [isBare, apostrophe])

/-- Only a letter at the very end makes a literal take escapes. -/
lemma isEscapeLiteral_of_getLast {cs : List Char} {c : Char} (last : cs.getLast? = some c)
    (other : c ≠ 'E' ∧ c ≠ 'e') (before : List Char) :
    isEscapeLiteral (cs.reverse ++ before) = false := by
  obtain ⟨init, d, rfl⟩ := (List.eq_nil_or_concat cs).resolve_left (by rintro rfl; cases last)
  rw [List.concat_eq_append, List.getLast?_concat] at last
  obtain rfl : d = c := by simpa using last
  simp [isEscapeLiteral, other.1, other.2]

variable {P : Change} {rest before cs ds : List Char}

/-- The characters of a tag in the new text come from characters of a tag. -/
lemma Edit.tag (e : Edit P rest before cs ds)
    (untagged : ∀ before old new after, P before old new after → new ≠ [] ∧ Untagged old new)
    {tag body : List Char} (eq : ds ++ rest = tag ++ '$' :: body) (name : tag.all isNameChar) :
    ∃ tag' body', cs ++ rest = tag' ++ '$' :: body' ∧ tag'.all isNameChar ∧
      (tag'.head?.any Char.isDigit → tag.head?.any Char.isDigit) := by
  induction e generalizing tag with
  | nil => exact ⟨tag, body, eq, name, id⟩
  | @keep before cs ds c _ ih =>
    cases tag with
    | nil =>
      obtain ⟨rfl, -⟩ : c = '$' ∧ _ := List.cons.inj eq
      exact ⟨[], cs ++ rest, rfl, rfl, id⟩
    | cons d tag =>
      obtain ⟨rfl, tail⟩ := List.cons.inj eq
      obtain ⟨here, later⟩ := Bool.and_eq_true_iff.1 name
      obtain ⟨tag', body', eq', name', -⟩ := ih tail later
      refine ⟨c :: tag', body', by rw [List.cons_append, eq']; rfl, ?_, id⟩
      rw [List.all_cons, here, name']
      rfl
  | @put before old new cs ds _ place _ ih =>
    obtain ⟨some, clean⟩ := untagged _ _ _ _ place
    rw [List.append_assoc] at eq
    -- What is put in ends before the sign.
    obtain ⟨tag, rfl, tail⟩ : ∃ tag', tag = new ++ tag' ∧ ds ++ rest = tag' ++ '$' :: body := by
      rcases List.append_eq_append_iff.1 eq with ⟨more, eq, left⟩ | ⟨more, eq, left⟩
      · exact ⟨more, eq, left⟩
      · cases more with
        | nil => exact ⟨[], by simpa using eq.symm, left.symm⟩
        | cons d more =>
          obtain ⟨rfl, -⟩ := List.cons.inj left
          exact absurd (by rw [eq]; simp) clean.dollar
    rw [List.all_append, Bool.and_eq_true] at name
    obtain ⟨tag', body', eq', name', -⟩ := ih tail name.2
    refine ⟨old ++ tag', body', by rw [List.append_assoc, eq', List.append_assoc], ?_, ?_⟩
    · rw [List.all_append, clean.name name.1, name']
      rfl
    · obtain ⟨c, new, rfl⟩ := List.exists_cons_of_ne_nil some
      obtain ⟨d, old, rfl⟩ := List.exists_cons_of_ne_nil ‹old ≠ []›
      exact clean.digit name.1

/-- No tag comes about. -/
lemma Edit.dollarTag (e : Edit P rest before cs ds)
    (untagged : ∀ before old new after, P before old new after → new ≠ [] ∧ Untagged old new)
    (h : (dollarTag? (ds ++ rest)).isSome) : (dollarTag? (cs ++ rest)).isSome := by
  obtain ⟨tag, body, eq, isTag⟩ := dollarTag_isSome_iff.1 h
  obtain ⟨tag', body', eq', name, digit⟩ := e.tag untagged eq isTag.name
  refine dollarTag_isSome_iff.2 ⟨tag', body', eq', name, ?_⟩
  rw [Bool.eq_false_iff]
  intro start
  exact absurd (digit start) (by simp [isTag.start])

/-- Whether an edit is such that its places are no matter to what follows them. -/
structure Edit.Quiet (P : Change) (cs : List Char) : Prop where
  mild : ∀ before old new after, P before old new after → Mild old new after
  tags : '$' ∈ cs → ∀ before old new after, P before old new after → Untagged old new

namespace Edit
variable (e : Edit P rest before cs ds) (quiet : Quiet P cs)
include e quiet

/-- A mark of a quotation comes first only where it did. -/
lemma mark_eq {mark : Char} (marks : mark = apostrophe ∨ mark = '-' ∨ mark = '*')
    (h : (ds ++ rest).head? = some mark) : (cs ++ rest).head? = some mark := by
  refine e.head_eq (fun before old new after place => ?_) h
  have mild := quiet.mild _ _ _ _ place
  refine ⟨mild.some, ?_⟩
  rcases marks with rfl | rfl | rfl
  · exact mild.head_ne (.inl rfl)
  · exact mild.head_ne (.inr (.inr rfl))
  · exact mild.star

end Edit

/-- What is quiet is so in the rest of a text. -/
lemma Edit.Quiet.tail (front : List Char) (quiet : Edit.Quiet P (front ++ cs)) : Edit.Quiet P cs where
  mild := quiet.mild
  tags mem := quiet.tags (List.mem_append_right front mem)

/-- The new text looks back only where the old one did. -/
lemma Edit.looksBack (e : Edit P rest before cs ds) (quiet : Edit.Quiet P cs)
    (h : Sql.looksBack (ds ++ rest)) : Sql.looksBack (cs ++ rest) := by
  cases e with
  | nil => exact h
  | @keep _ cs ds c e =>
    have quiet' : Edit.Quiet P cs := quiet.tail [c]
    rw [List.cons_append, Sql.looksBack, Bool.or_eq_true, Bool.and_eq_true, Bool.and_eq_true,
      decide_eq_true_eq, decide_eq_true_eq] at h ⊢
    rcases h with ⟨rfl, tag⟩ | ⟨letter, quote⟩
    · have untagged := quiet.tags List.mem_cons_self
      refine .inl ⟨rfl, e.dollarTag (fun _ _ _ _ place => ?_) tag⟩
      exact ⟨(quiet.mild _ _ _ _ place).some, untagged _ _ _ _ place⟩
    · exact .inr ⟨letter, e.mark_eq quiet' (.inl rfl) quote⟩
  | @put _ old new cs ds _ place e =>
    have mild := quiet.mild _ _ _ _ place
    rw [List.append_assoc, mild.not_looksBack (e.mark_eq (quiet.tail _) (.inl rfl))] at h
    cases h

/-- What an edit makes of a stretch of code is code. -/
lemma Edit.isCode (e : Edit P rest before cs ds) (quiet : Edit.Quiet P cs) {b b' : List Char}
    (alike : EndAlike b b' (cs ++ rest)) (inside : IsCode b cs rest) :
    IsCode b' ds rest ∧ EndAlike (cs.reverse ++ b) (ds.reverse ++ b') rest := by
  induction e generalizing b b' with
  | nil => exact ⟨trivial, alike⟩
  | @keep before cs ds c e ih =>
    have quiet' : Edit.Quiet P cs := quiet.tail [c]
    obtain ⟨inside', alike'⟩ := ih quiet' alike.cons inside.2
    rw [List.reverse_cons, List.reverse_cons, List.append_assoc, List.append_assoc]
    refine ⟨⟨?_, inside'⟩, alike'⟩
    obtain ⟨single, double, dash, slash, dollar⟩ := quotedAt_eq_none_iff.1 inside.1
    refine quotedAt_eq_none_iff.2 ⟨single, double, ?_, ?_, ?_⟩
    · exact fun both => dash ⟨both.1, e.mark_eq quiet' (.inr (.inl rfl)) both.2⟩
    · exact fun both => slash ⟨both.1, e.mark_eq quiet' (.inr (.inr rfl)) both.2⟩
    · rintro rfl start
      rw [Bool.eq_false_iff]
      intro tag
      have looks : Sql.looksBack ('$' :: (cs ++ rest)) :=
        (Edit.keep '$' e).looksBack quiet (by rw [List.cons_append, Sql.looksBack, tag]; rfl)
      have tag' : (dollarTag? (cs ++ rest)).isSome := by simpa [Sql.looksBack] using looks
      rw [dollar rfl ((alike.1 looks).trans start)] at tag'
      cases tag'
  | @put before old new cs ds some place e ih =>
    have mild := quiet.mild _ _ _ _ place
    have inside' := (isCode_append.1 inside).2
    have alike' : EndAlike (old.reverse ++ b) (new.reverse ++ b') (cs ++ rest) := by
      refine ⟨fun looks => ?_, fun quote => mild.escape quote b b'⟩
      have last {piece : List Char} (some : piece ≠ []) (b : List Char) :
          (piece.reverse ++ b).head? = piece.getLast? := by
        obtain ⟨init, c, rfl⟩ := (List.eq_nil_or_concat piece).resolve_left some
        simp
      rw [last some, last mild.some]
      exact mild.looks looks
    obtain ⟨tail, ends⟩ := ih (quiet.tail _) alike' inside'
    refine ⟨isCode_append.2 ⟨isCode_of_isPlain mild.plain _ _, tail⟩, ?_⟩
    rwa [List.reverse_append, List.reverse_append, List.append_assoc, List.append_assoc]

/-- What a quiet edit makes of a stretch of code can stand in its place. -/
theorem Edit.stands (e : Edit P rest [] cs ds) (some : cs ≠ []) (quiet : Edit.Quiet P cs) :
    Stands rest cs ds where
  some := e.ne_nil (fun _ _ _ _ place => (quiet.mild _ _ _ _ place).some) some
  follows := by
    cases e with
    | nil => exact .refl []
    | keep c _ => exact .inl rfl
    | @put _ old new cs ds nonempty place _ =>
      have mild := quiet.mild _ _ _ _ place
      obtain ⟨c, old, rfl⟩ := List.exists_cons_of_ne_nil nonempty
      obtain ⟨d, new, rfl⟩ := List.exists_cons_of_ne_nil mild.some
      refine .inr ⟨⟨c, rfl, ?_⟩, d, rfl, ?_, ?_⟩
      · rintro rfl
        exact mild.line rfl
      · rintro rfl
        exact mild.head_ne (.inl rfl) rfl
      · rintro rfl
        exact mild.head_ne (.inr (.inl rfl)) rfl
  looks := e.looksBack quiet
  code alike inside := e.isCode quiet alike inside

/-- An edit of a stretch of code by itself, whose places are no matter to what follows the whole. -/
theorem Edit.stands_of (e : Edit P [] [] cs ds) (some : cs ≠ [])
    (mild : ∀ front old new after, cs = front ++ (old ++ after) → P front.reverse old new after →
      Mild old new (after ++ rest))
    (tags : '$' ∈ cs → ∀ before old new after, P before old new after → Untagged old new) :
    Stands rest cs ds := by
  have whole : Edit (fun _ old new after => Mild old new after ∧ ('$' ∈ cs → Untagged old new)) rest []
      cs ds := by
    refine e.imp fun front old new after eq place => ?_
    rw [List.append_nil, List.append_nil] at place
    exact ⟨mild front old new after eq place, fun mem => tags mem _ _ _ _ place⟩
  exact whole.stands some ⟨fun _ _ _ _ place => place.1, fun mem _ _ _ _ place => place.2 mem⟩

end Tenancy.Sql
