import Tenancy.Proofs.Sql.Body

/-!
# What is quoted ends by itself

Where a literal, a quoted name, a dollar-quoted body or a comment ends does not depend on what follows
it, as long as that does not go on with the part: `quotedAt_follow`. Whether a part starts at some place
depends on little more than the character before that place: `quotedAt_eq_none_iff`.
-/

namespace Tenancy.Sql
open Text

/-- Whether another text can follow where one followed: both start alike, or the first did not start
with the end of a line and the other starts with no mark of a quotation. -/
def Follows (r r' : List Char) : Prop :=
  r.head? = r'.head? ∨
    (∃ c, r.head? = some c ∧ c ≠ '\n') ∧ ∃ c, r'.head? = some c ∧ c ≠ apostrophe ∧ c ≠ '"'

namespace Follows
variable {r r' r'' : List Char}

/-- A text follows like itself. -/
lemma refl (r : List Char) : Follows r r := .inl rfl

/-- Texts that follow like a third follow like each other, in turn. -/
lemma trans (h : Follows r r') (h' : Follows r' r'') : Follows r r'' := by
  rcases h with same | ⟨first, last⟩
  · rcases h' with same' | ⟨first, last⟩
    · exact .inl (same.trans same')
    · exact .inr ⟨same ▸ first, last⟩
  · rcases h' with same' | ⟨-, last'⟩
    · exact .inr ⟨first, same' ▸ last⟩
    · exact .inr ⟨first, last'⟩

/-- Where nothing followed nothing follows. -/
lemma eq_nil (h : Follows r r') (nil : r = []) : r' = [] := by
  subst nil
  rcases h with same | ⟨⟨c, first, -⟩, -⟩
  · exact List.head?_eq_none_iff.1 same.symm
  · cases first

/-- A mark that does not follow does not follow then. -/
lemma head_ne (h : Follows r r') {mark : Char} (quotes : mark = apostrophe ∨ mark = '"')
    (other : r.head? ≠ some mark) : r'.head? ≠ some mark := by
  rcases h with same | ⟨-, c, first, single, double⟩
  · rwa [← same]
  · rw [first]
    rintro ⟨⟩
    rcases quotes with rfl | rfl
    · exact single rfl
    · exact double rfl

/-- Where the end of a line followed it still does. -/
lemma newline (h : Follows r r') (line : r.head? = some '\n') : r'.head? = some '\n' := by
  rcases h with same | ⟨⟨c, first, other⟩, -⟩
  · rwa [← same]
  · rw [line] at first
    cases first
    exact absurd rfl other

end Follows

variable {r' : List Char}

/-- Something is taken of a quoted part. -/
lemma throughMark_ne_nil (mark : Char) (escapes : Bool) {cs : List Char} (some : cs ≠ []) :
    (throughMark mark escapes cs).1 ≠ [] := by
  fun_cases throughMark mark escapes cs <;> simp_all [prepend]

/-- A quoted part is the same with another text behind it that follows alike. -/
lemma throughMark_follow {mark : Char} (quotes : mark = apostrophe ∨ mark = '"') (escapes : Bool)
    {cs : List Char} (h : Follows (throughMark mark escapes cs).2 r') :
    throughMark mark escapes ((throughMark mark escapes cs).1 ++ r') =
      ((throughMark mark escapes cs).1, r') := by
  fun_induction throughMark mark escapes cs with
  | case1 =>
    rw [h.eq_nil rfl]
    rfl
  | case2 c =>
    rw [h.eq_nil rfl]
    rfl
  | case3 c d cs escape ih =>
    have tail := ih h
    dsimp only [prepend, List.cons_append]
    rw [throughMark, if_pos escape, tail]
    rfl
  | case4 cs plain ih =>
    have tail := ih h
    dsimp only [prepend, List.cons_append]
    rw [throughMark, if_neg plain, if_pos rfl, if_pos rfl, tail]
    rfl
  | case5 d cs single plain =>
    have other := h.head_ne quotes (by simpa using single)
    cases r' with
    | nil => rfl
    | cons d' r' =>
      rw [List.singleton_append, throughMark, if_neg plain, if_pos rfl,
        if_neg (by simpa using other)]
  | case6 c d cs plain other ih =>
    have tail := ih h
    obtain ⟨e, more, eq⟩ := List.exists_cons_of_ne_nil
      (throughMark_ne_nil mark escapes (List.cons_ne_nil d cs))
    dsimp only [prepend]
    rw [eq] at tail ⊢
    rw [List.cons_append, List.cons_append, throughMark, if_neg plain, if_neg other,
      ← List.cons_append, tail]
    rfl

/-- So is a comment to the end of the line. -/
lemma throughLine_follow {cs : List Char} (h : Follows (throughLine cs).2 r') :
    throughLine ((throughLine cs).1 ++ r') = ((throughLine cs).1, r') := by
  have line : ∀ c ∈ (throughLine cs).1, decide (c ≠ '\n') := fun c mem =>
    List.all_eq_true.1 List.all_takeWhile c mem
  have stops : r'.takeWhile (· ≠ '\n') = [] ∧ r'.dropWhile (· ≠ '\n') = r' := by
    have head := List.head?_dropWhile_not (· ≠ '\n') cs
    cases rest : (throughLine cs).2 with
    | nil =>
      rw [h.eq_nil rest]
      exact ⟨rfl, rfl⟩
    | cons c more =>
      have first : (cs.dropWhile (· ≠ '\n')).head? = some c := by
        rw [show cs.dropWhile (· ≠ '\n') = c :: more from rest]
        rfl
      rw [first] at head
      obtain rfl : c = '\n' := by simpa using head
      obtain ⟨r', rfl⟩ := List.head?_eq_some_iff.1 (h.newline (by rw [rest]; rfl))
      exact ⟨rfl, rfl⟩
  rw [throughLine, List.takeWhile_append_of_pos line, List.dropWhile_append_of_pos line, stops.1,
    stops.2, List.append_nil]

/-- Something is taken of a comment. -/
lemma throughComment_ne_nil (depth : Nat) {cs : List Char} (some : cs ≠ []) :
    (throughComment depth cs).1 ≠ [] := by
  fun_cases throughComment depth cs <;> simp_all [prepend]

/-- What is done with two characters of a comment. -/
lemma throughComment_pair (depth : Nat) (c d : Char) (cs : List Char) :
    throughComment depth (c :: d :: cs) =
      if c = '/' ∧ d = '*' then prepend c (prepend d (throughComment (depth + 1) cs))
      else if c = '*' ∧ d = '/' then
        match depth with
        | 0 => ([c, d], cs)
        | depth + 1 => prepend c (prepend d (throughComment depth cs))
      else prepend c (throughComment depth (d :: cs)) := by
  exact throughComment.eq_def depth (c :: d :: cs)

/-- A comment is the same with another text behind it that follows alike. -/
lemma throughComment_follow (depth : Nat) {cs : List Char}
    (h : Follows (throughComment depth cs).2 r') :
    throughComment depth ((throughComment depth cs).1 ++ r') = ((throughComment depth cs).1, r') := by
  fun_induction throughComment depth cs with
  | case1 =>
    rw [h.eq_nil rfl]
    rfl
  | case2 depth c =>
    rw [h.eq_nil rfl]
    rfl
  | case3 depth c d cs opens ih =>
    have tail := ih h
    dsimp only [prepend, List.cons_append]
    rw [throughComment_pair, if_pos opens, tail]
    rfl
  | case4 c d cs opens closes =>
    rw [List.cons_append, List.cons_append, throughComment_pair, if_neg opens, if_pos closes]
    rfl
  | case5 c d cs opens closes depth ih =>
    have tail := ih h
    dsimp only [prepend, List.cons_append]
    rw [throughComment_pair, if_neg opens, if_pos closes]
    dsimp only
    rw [tail]
    rfl
  | case6 depth c d cs opens closes ih =>
    have tail := ih h
    have whole := throughComment_append depth (d :: cs)
    obtain ⟨e, more, eq⟩ := List.exists_cons_of_ne_nil
      (throughComment_ne_nil depth (List.cons_ne_nil d cs))
    dsimp only [prepend]
    rw [eq] at tail whole ⊢
    obtain rfl : e = d := (List.cons.inj whole).1
    rw [List.cons_append, List.cons_append, throughComment_pair, if_neg opens, if_neg closes,
      ← List.cons_append, tail]
    rfl

/-- Either the mark was found, or everything was taken. -/
lemma throughText_cases (mark cs : List Char) :
    (throughText mark cs).2 = [] ∨ mark <:+ (throughText mark cs).1 := by
  fun_induction throughText mark cs with
  | case1 => exact .inl rfl
  | case2 c cs found => exact .inr (List.suffix_refl mark)
  | case3 c cs other ih => exact ih.imp_right fun ends => ends.trans (List.suffix_cons c _)

/-- So is a body. -/
lemma throughText_follow {mark : List Char} (some : mark ≠ []) {cs : List Char}
    (h : Follows (throughText mark cs).2 r') :
    throughText mark ((throughText mark cs).1 ++ r') = ((throughText mark cs).1, r') := by
  fun_induction throughText mark cs with
  | case1 =>
    rw [h.eq_nil rfl]
    rfl
  | case2 c cs found => exact throughText_mark mark some r'
  | case3 c cs other ih =>
    have tail := ih h
    have differs : ¬ mark.isPrefixOf (c :: ((throughText mark cs).1 ++ r')) := by
      intro found
      have whole := throughText_append mark cs
      rcases throughText_cases mark cs with all | ends
      · rw [h.eq_nil all, List.append_nil] at found
        rw [all, List.append_nil] at whole
        rw [whole] at found
        exact other found
      · have shorter : mark <+: c :: (throughText mark cs).1 := by
          refine List.prefix_of_prefix_length_le (List.isPrefixOf_iff_prefix.1 found)
            (List.prefix_append (c :: (throughText mark cs).1) r') ?_
          exact Nat.le_succ_of_le ends.length_le
        refine other (List.isPrefixOf_iff_prefix.2 ?_)
        rw [← whole]
        exact shorter.trans (List.prefix_append (c :: _) _)
    dsimp only [prepend]
    rw [List.cons_append, throughText, if_neg differs, tail]
    rfl

/-! ## Where a part starts -/

/-- A tag is found in front of the next dollar sign, if it is one. -/
lemma dollarTag_eq_some_iff {cs tag body : List Char} :
    dollarTag? cs = some (tag, body) ↔ cs = tag ++ '$' :: body ∧ IsTag tag := by
  constructor
  · intro h
    refine ⟨(dollarTag_append h).symm, ?_⟩
    unfold dollarTag? at h
    split at h
    · dsimp only at h
      split at h
      · cases h
      · next start =>
        cases h
        exact ⟨List.all_takeWhile, by simpa using start⟩
    · cases h
  · rintro ⟨rfl, h⟩
    exact h.dollarTag_eq body

/-- A tag is found if there is one. -/
lemma dollarTag_isSome_iff {cs : List Char} :
    (dollarTag? cs).isSome ↔ ∃ tag body, cs = tag ++ '$' :: body ∧ IsTag tag := by
  constructor
  · intro h
    obtain ⟨⟨tag, body⟩, found⟩ := Option.isSome_iff_exists.1 h
    exact ⟨tag, body, dollarTag_eq_some_iff.1 found⟩
  · rintro ⟨tag, body, h⟩
    rw [dollarTag_eq_some_iff.2 h]
    rfl

/-- Nothing but code starts at a place. -/
lemma quotedAt_eq_none_iff {before cs : List Char} {c : Char} :
    quotedAt? before (c :: cs) = none ↔
      c ≠ apostrophe ∧ c ≠ '"' ∧ ¬ (c = '-' ∧ cs.head? = some '-') ∧
        ¬ (c = '/' ∧ cs.head? = some '*') ∧
        (c = '$' → before.head?.any isNameChar = false → (dollarTag? cs).isSome = false) := by
  rw [quotedAt?]
  split
  · simp_all
  split
  · simp_all
  split
  · simp_all
  split
  · simp_all
  split
  · next dollar =>
    obtain ⟨rfl, start⟩ := dollar
    simp only [Bool.not_eq_true] at start
    rw [Option.map_eq_none_iff]
    simp_all
  · simp_all

/-- A part that is no code ends where it ended, whatever follows it now. -/
theorem quotedAt_follow {before taken r r' : List Char} {kind : LexemeKind}
    (h : quotedAt? before (taken ++ r) = some (kind, taken, r)) (follows : Follows r r') :
    quotedAt? before (taken ++ r') = some (kind, taken, r') := by
  cases taken with
  | nil => exact absurd (length_quotedAt_lt h) (Nat.lt_irrefl _)
  | cons c t =>
    rw [List.cons_append, quotedAt?] at h ⊢
    split at h
    · next literal =>
      simp only [prepend, Option.some.injEq, Prod.mk.injEq, List.cons.injEq, true_and] at h
      obtain ⟨rfl, eq, rest⟩ := h
      have again := throughMark_follow (.inl rfl) _ (rest ▸ follows)
      rw [eq] at again
      rw [if_pos literal, again]
      rfl
    rw [if_neg ‹_›]
    split at h
    · next quoted =>
      simp only [prepend, Option.some.injEq, Prod.mk.injEq, List.cons.injEq, true_and] at h
      obtain ⟨rfl, eq, rest⟩ := h
      have again := throughMark_follow (.inr rfl) _ (rest ▸ follows)
      rw [eq] at again
      rw [if_pos quoted, again]
      rfl
    rw [if_neg ‹_›]
    split at h
    · next line =>
      simp only [prepend, Option.some.injEq, Prod.mk.injEq, List.cons.injEq, true_and] at h
      obtain ⟨rfl, eq, rest⟩ := h
      have again := throughLine_follow (rest ▸ follows)
      rw [eq] at again
      have dash : (t ++ r').head? = some '-' := by
        cases t with
        | nil =>
          -- The second dash cannot be where the line ends.
          obtain ⟨more, rfl⟩ := List.head?_eq_some_iff.1 line.2
          cases eq
        | cons d t => exact line.2
      rw [if_pos ⟨line.1, dash⟩, again]
      rfl
    split at h
    · next block =>
      simp only [prepend, Option.some.injEq, Prod.mk.injEq, List.cons.injEq, true_and] at h
      obtain ⟨rfl, eq, rest⟩ := h
      have again := throughComment_follow 0 (rest ▸ follows)
      obtain ⟨inner, rfl⟩ : ∃ inner, t = '*' :: inner := ⟨_, eq.symm⟩
      rw [List.cons.injEq] at eq
      rw [eq.2] at again
      rw [if_neg (by simp [block.1]), if_pos ⟨block.1, rfl⟩, List.cons_append, List.tail_cons, again]
      rfl
    split at h
    · next dollar =>
      obtain ⟨⟨tag, body⟩, found, eq⟩ := Option.map_eq_some_iff.1 h
      obtain ⟨inside, named⟩ := dollarTag_eq_some_iff.1 found
      dsimp only at eq
      simp only [Prod.mk.injEq] at eq
      obtain ⟨rfl, eq, rest⟩ := eq
      have again := throughText_follow (List.cons_ne_nil '$' (tag ++ ['$'])) (rest ▸ follows)
      obtain ⟨-, rfl⟩ : '$' = c ∧ tag ++ ['$'] ++ (throughText ('$' :: (tag ++ ['$'])) body).1 = t :=
        List.cons.inj eq
      have tagged : dollarTag? (tag ++ ['$'] ++ (throughText ('$' :: (tag ++ ['$'])) body).1 ++ r') =
          some (tag, (throughText ('$' :: (tag ++ ['$'])) body).1 ++ r') := by
        have found := named.dollarTag_eq ((throughText ('$' :: (tag ++ ['$'])) body).1 ++ r')
        simpa using found
      rw [if_neg (by simp [dollar.1]), if_neg (by simp [dollar.1]), if_pos dollar, tagged,
        Option.map_some]
      dsimp only
      rw [List.cons_append, again, dollar.1]
      rfl
    · cases h

end Tenancy.Sql
