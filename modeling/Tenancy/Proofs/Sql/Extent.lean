import Tenancy.Proofs.Sql.Cut

/-!
# How far a quotation reaches

A quotation is a literal, a quoted name, a comment of either form or a dollar-quoted body. Each has an
opener and a rule of its own for what closes it; it reaches to the first place where the rule is
fulfilled, and to the end of the statement if there is none. `quotedAt_eq_some_iff` says that this is
what is quoted at a place, and `IsScan` what the lexemes of a statement are: there is exactly one such
list (`isScan_lexemes`, `IsScan.eq_lexemes`).
-/

namespace Tenancy.Sql
open Text

/-! ## Quotations -/

/-- What can be quoted: a literal with or without backslash escapes, a name, the rest of a line, a
comment that can hold others, and a body between two tags. -/
inductive Quotation where
  | literal (escapes : Bool)
  | name
  | line
  | block
  | dollar (tag : List Char)

/-- What may stand between two marks: characters other than the mark, the mark twice and, with
escapes, any character after a backslash. -/
inductive Between (mark : Char) (escapes : Bool) : List Char → Prop where
  | nil : Between mark escapes []
  | char {c cs} : c ≠ mark → ¬ (escapes ∧ c = '\\') → Between mark escapes cs →
    Between mark escapes (c :: cs)
  | doubled {cs} : Between mark escapes cs → Between mark escapes (mark :: mark :: cs)
  | escaped {c cs} : escapes → Between mark escapes cs → Between mark escapes ('\\' :: c :: cs)

/-- How many more comments a text opens than it closes, read from left to right. -/
def nesting : List Char → Int
  | '/' :: '*' :: cs => nesting cs + 1
  | '*' :: '/' :: cs => nesting cs - 1
  | _ :: cs => nesting cs
  | [] => 0

namespace Quotation

def kind : Quotation → LexemeKind
  | literal _ => .literal
  | name => .quotedName
  | line | block => .comment
  | dollar _ => .dollarQuoted

def opener : Quotation → List Char
  | literal _ => [apostrophe]
  | name => ['"']
  | line => ['-', '-']
  | block => ['/', '*']
  | dollar tag => bodyMark tag

/-- Whether the opener opens the quotation after a text, which is given last character first: a
literal has escapes if an `E` that ends no longer name stands in front of it, and a tag is no part of a
name. -/
def Starts (before : List Char) : Quotation → Prop
  | literal escapes => escapes ↔ ∃ e front, before = e :: front ∧ (e = 'E' ∨ e = 'e') ∧
      ∀ c, front.head? = some c → ¬ isNameChar c
  | name | line | block => True
  | dollar tag => before.head?.any isNameChar = false ∧ IsTag tag

/-- Whether a text after the opener and in front of `rest` ends with what closes the quotation. -/
def Closed (q : Quotation) (body rest : List Char) : Prop :=
  match q with
  | literal escapes =>
    ∃ inner, body = inner ++ [apostrophe] ∧ Between apostrophe escapes inner ∧
      rest.head? ≠ some apostrophe
  | name => ∃ inner, body = inner ++ ['"'] ∧ Between '"' false inner ∧ rest.head? ≠ some '"'
  | line => rest.head? = some '\n'
  | block => nesting ('/' :: '*' :: body) = 0
  | dollar tag => bodyMark tag <:+ body

end Quotation

/-- Whether a text in front of `rest` reaches to the first place where `P` holds of it, or to the end
where there is none. -/
structure Reaches (P : List Char → List Char → Prop) (body rest : List Char) : Prop where
  ends : P body rest ∨ rest = []
  first : ∀ front back, front ++ back = body → back ≠ [] → ¬ P front (back ++ rest)

namespace Reaches
variable {P Q : List Char → List Char → Prop} {body body' rest rest' : List Char}

/-- What is in front of all places that count changes nothing. -/
lemma shift (h : Reaches P body rest) (front : List Char)
    (same : ∀ b, b <+: body → ∀ r, Q (front ++ b) r ↔ P b r)
    (none : ∀ f b r, f ++ b = front → b ≠ [] → ¬ Q f (b ++ r)) : Reaches Q (front ++ body) rest := by
  refine ⟨h.ends.imp_left (same body (List.prefix_refl body) rest).2, fun f b split some => ?_⟩
  rcases List.append_eq_append_iff.1 split with ⟨more, rfl, rfl⟩ | ⟨more, rfl, rfl⟩
  · by_cases empty : more = []
    · subst empty
      have first := h.first [] body rfl some
      rw [← same [] List.nil_prefix] at first
      simpa using first
    · rw [List.append_assoc]
      exact none f more (body ++ rest) rfl empty
  · rw [same more (List.prefix_append more b)]
    exact h.first more b rfl some

/-- The empty text reaches to a place right there, and to the end of a text that has ended. -/
lemma nil (h : P [] rest ∨ rest = []) : Reaches P [] rest :=
  ⟨h, fun _ _ split some => absurd (List.append_eq_nil_iff.1 split).2 some⟩

/-- One more character in front, which has no part in any place, changes nothing. -/
lemma cons {c : Char} (same : ∀ b, b <+: body → ∀ r, Q (c :: b) r ↔ P b r) (none : ∀ r, ¬ Q [] r)
    (h : Reaches P body rest) : Reaches Q (c :: body) rest := by
  refine h.shift [c] same fun f b r split some => ?_
  rcases List.append_eq_cons_iff.1 split with ⟨rfl, -⟩ | ⟨f, rfl, tail⟩
  · exact none _
  · exact absurd (List.append_eq_nil_iff.1 tail.symm).2 some

/-- Nor do two more, of which no place has one alone. -/
lemma cons_cons {c d : Char} (same : ∀ b, b <+: body → ∀ r, Q (c :: d :: b) r ↔ P b r)
    (none : ∀ r, ¬ Q [] r) (half : ∀ r, ¬ Q [c] (d :: r)) (h : Reaches P body rest) :
    Reaches Q (c :: d :: body) rest := by
  refine h.shift [c, d] same fun f b r split some => ?_
  rcases List.append_eq_cons_iff.1 split with ⟨rfl, -⟩ | ⟨f, rfl, tail⟩
  · exact none _
  rcases List.append_eq_cons_iff.1 tail.symm with ⟨rfl, rfl⟩ | ⟨f, rfl, end_eq⟩
  · exact half r
  · exact absurd (List.append_eq_nil_iff.1 end_eq.symm).2 some

/-- A single character cannot be cut. -/
lemma one {c : Char} (h : P [c] rest ∨ rest = []) (none : ∀ r, ¬ P [] r) : Reaches P [c] rest := by
  refine ⟨h, fun f b split some => ?_⟩
  rcases List.append_eq_cons_iff.1 split with ⟨rfl, -⟩ | ⟨f, rfl, tail⟩
  · exact none _
  · exact absurd (List.append_eq_nil_iff.1 tail.symm).2 some

/-- A text has one part that reaches so far. -/
lemma unique (h : Reaches P body rest) (h' : Reaches P body' rest')
    (same : body ++ rest = body' ++ rest') : body = body' ∧ rest = rest' := by
  have shorter {b b' r r' more : List Char} (h : Reaches P b r) (h' : Reaches P b' r')
      (body_eq : b' = b ++ more) (rest_eq : r = more ++ r') : more = [] := by
    by_contra some
    rcases h.ends with closed | nil
    · exact h'.first b more body_eq.symm some (rest_eq ▸ closed)
    · rw [rest_eq, List.append_eq_nil_iff] at nil
      exact some nil.1
  rcases List.append_eq_append_iff.1 same with ⟨more, body_eq, rest_eq⟩ | ⟨more, body_eq, rest_eq⟩
  · obtain rfl := shorter h h' body_eq rest_eq
    exact ⟨by simpa using body_eq.symm, rest_eq⟩
  · obtain rfl := shorter h' h body_eq rest_eq
    exact ⟨by simpa using body_eq, rest_eq.symm⟩

end Reaches

/-! ## What the reading functions take -/

/-- Whether a text ends with the mark that closes what is quoted between two of them. -/
def MarkCloses (mark : Char) (escapes : Bool) (body rest : List Char) : Prop :=
  ∃ inner, body = inner ++ [mark] ∧ Between mark escapes inner ∧ rest.head? ≠ some mark

section Mark
variable {mark : Char} {escapes : Bool} {c d : Char} {body rest : List Char}

/-- The empty text does not end with a mark. -/
lemma not_markCloses_nil : ¬ MarkCloses mark escapes [] rest := by
  rintro ⟨inner, eq, -⟩
  exact List.append_ne_nil_of_right_ne_nil inner (List.cons_ne_nil mark []) eq.symm

/-- A text ends with the closing mark if the mark is all of it, or if what is between is as it may be. -/
lemma markCloses_cons_iff :
    MarkCloses mark escapes (c :: body) rest ↔
      (c = mark ∧ body = [] ∧ rest.head? ≠ some mark) ∨
        ∃ inner, body = inner ++ [mark] ∧ Between mark escapes (c :: inner) ∧
          rest.head? ≠ some mark := by
  constructor
  · rintro ⟨inner, eq, inside, next⟩
    rcases List.cons_eq_append_iff.1 eq with ⟨rfl, one⟩ | ⟨inner, rfl, tail⟩
    · obtain ⟨rfl, rfl⟩ := List.cons.inj one
      exact .inl ⟨rfl, rfl, next⟩
    · exact .inr ⟨inner, tail, inside, next⟩
  · rintro (⟨rfl, rfl, next⟩ | ⟨inner, rfl, inside, next⟩)
    · exact ⟨[], rfl, .nil, next⟩
    · exact ⟨c :: inner, rfl, inside, next⟩

/-- An ordinary character may always stand between two marks. -/
lemma between_char_iff (plain : ¬ (escapes ∧ c = '\\')) (other : c ≠ mark) :
    Between mark escapes (c :: body) ↔ Between mark escapes body := by
  constructor
  · intro h
    cases h with
    | char _ _ inside => exact inside
    | doubled => exact absurd rfl other
    | escaped escape => exact absurd ⟨escape, rfl⟩ plain
  · exact .char other plain

/-- Neither one of two marks nor a backslash with what it escapes closes anything. -/
lemma between_pair_iff (differ : mark ≠ '\\') (pair : (escapes ∧ c = '\\') ∨ c = mark ∧ d = mark) :
    Between mark escapes (c :: d :: body) ↔ Between mark escapes body := by
  constructor
  · intro h
    cases h with
    | char other plain _ =>
      rcases pair with escape | ⟨rfl, -⟩
      · exact absurd escape plain
      · exact absurd rfl other
    | doubled inside => exact inside
    | escaped _ inside => exact inside
  · intro h
    rcases pair with ⟨escape, rfl⟩ | ⟨rfl, rfl⟩
    · exact .escaped escape h
    · exact .doubled h

/-- Half of a pair may not stand there alone. -/
lemma not_between_one (pair : (escapes ∧ c = '\\') ∨ c = mark) : ¬ Between mark escapes [c] := by
  intro h
  cases h with
  | char other plain _ => exact pair.elim plain other

/-- An ordinary character in front closes nothing. -/
lemma markCloses_char (plain : ¬ (escapes ∧ c = '\\')) (other : c ≠ mark) :
    MarkCloses mark escapes (c :: body) rest ↔ MarkCloses mark escapes body rest := by
  rw [markCloses_cons_iff]
  simp only [other, false_and, false_or, between_char_iff plain other]
  rfl

/-- Neither does a pair. -/
lemma markCloses_pair (differ : mark ≠ '\\')
    (pair : (escapes ∧ c = '\\') ∨ c = mark ∧ d = mark) :
    MarkCloses mark escapes (c :: d :: body) rest ↔ MarkCloses mark escapes body rest := by
  rw [markCloses_cons_iff]
  constructor
  · rintro (⟨-, eq, -⟩ | ⟨inner, eq, inside, next⟩)
    · cases eq
    · rcases List.cons_eq_append_iff.1 eq with ⟨rfl, -⟩ | ⟨inner, rfl, tail⟩
      · exact absurd inside (not_between_one (pair.imp_right And.left))
      · exact ⟨inner, tail, (between_pair_iff differ pair).1 inside, next⟩
  · rintro ⟨inner, rfl, inside, next⟩
    exact .inr ⟨d :: inner, rfl, (between_pair_iff differ pair).2 inside, next⟩

/-- Nor does half of a pair. -/
lemma not_markCloses_half (differ : mark ≠ '\\')
    (pair : (escapes ∧ c = '\\') ∨ c = mark ∧ d = mark) :
    ¬ MarkCloses mark escapes [c] (d :: rest) := by
  rw [markCloses_cons_iff]
  rintro (⟨rfl, -, next⟩ | ⟨inner, eq, -⟩)
  · rcases pair with ⟨-, eq⟩ | ⟨-, rfl⟩
    · exact differ eq
    · exact next rfl
  · exact List.append_ne_nil_of_right_ne_nil inner (List.cons_ne_nil mark []) eq.symm

/-- A quoted part reaches to the first mark that closes it. -/
lemma reaches_throughMark (differ : mark ≠ '\\') (cs : List Char) :
    Reaches (MarkCloses mark escapes) (throughMark mark escapes cs).1
      (throughMark mark escapes cs).2 := by
  fun_induction throughMark mark escapes cs with
  | case1 => exact .nil (.inr rfl)
  | case2 c => exact .one (.inr rfl) fun _ => not_markCloses_nil
  | case3 c d cs escape ih =>
    exact ih.cons_cons (fun _ _ _ => markCloses_pair differ (.inl escape))
      (fun _ => not_markCloses_nil) fun _ => not_markCloses_half differ (.inl escape)
  | case4 cs plain ih =>
    exact ih.cons_cons (fun _ _ _ => markCloses_pair differ (.inr ⟨rfl, rfl⟩))
      (fun _ => not_markCloses_nil) fun _ => not_markCloses_half differ (.inr ⟨rfl, rfl⟩)
  | case5 d cs single plain =>
    exact .one (.inl ⟨[], rfl, .nil, by simpa using single⟩) fun _ => not_markCloses_nil
  | case6 c d cs plain other ih =>
    exact ih.cons (fun _ _ _ => markCloses_char plain other) fun _ => not_markCloses_nil

end Mark

/-- A comment to the end of the line reaches to the first line break. -/
lemma reaches_throughLine (cs : List Char) :
    Reaches (fun _ rest => rest.head? = some '\n') (throughLine cs).1 (throughLine cs).2 := by
  constructor
  · have head := List.head?_dropWhile_not (· ≠ '\n') cs
    show (cs.dropWhile (· ≠ '\n')).head? = some '\n' ∨ cs.dropWhile (· ≠ '\n') = []
    cases rest : cs.dropWhile (· ≠ '\n') with
    | nil => exact .inr rfl
    | cons c more =>
      rw [rest] at head
      exact .inl (congrArg some (by simpa using head))
  · intro front back split some first
    obtain ⟨c, back, rfl⟩ := List.exists_cons_of_ne_nil some
    have mem : c ∈ cs.takeWhile (· ≠ '\n') := by
      show c ∈ (throughLine cs).1
      rw [← split]
      exact List.mem_append_right front List.mem_cons_self
    have other := of_decide_eq_true (List.all_eq_true.1 List.all_takeWhile c mem)
    exact other (Option.some.inj first)

/-! ### Comments in comments -/

/-- An opening counts as one more. -/
lemma nesting_opens (cs : List Char) : nesting ('/' :: '*' :: cs) = nesting cs + 1 := by
  rw [nesting]

/-- A closing counts as one less. -/
lemma nesting_closes (cs : List Char) : nesting ('*' :: '/' :: cs) = nesting cs - 1 := by
  rw [nesting]

/-- A single character neither opens nor closes anything. -/
lemma nesting_one (c : Char) : nesting [c] = 0 := by
  rw [nesting] <;> simp [nesting]

/-- A character that does not begin a pair does not count. -/
lemma nesting_char {c d : Char} (opens : ¬ (c = '/' ∧ d = '*')) (closes : ¬ (c = '*' ∧ d = '/'))
    (cs : List Char) : nesting (c :: d :: cs) = nesting (d :: cs) := by
  rw [nesting]
  · rintro _ rfl ⟨⟩
    exact opens ⟨rfl, rfl⟩
  · rintro _ rfl ⟨⟩
    exact closes ⟨rfl, rfl⟩

/-- A comment goes on to where all that are open are closed. -/
lemma reaches_throughComment (depth : Nat) (cs : List Char) :
    Reaches (fun body _ => nesting body + depth + 1 = 0) (throughComment depth cs).1
      (throughComment depth cs).2 := by
  have none (n : Nat) (_ : List Char) : ¬ nesting [] + n + 1 = 0 := by
    rw [nesting]
    omega
  have half (c : Char) (n : Nat) (_ : List Char) : ¬ nesting [c] + n + 1 = 0 := by
    rw [nesting_one]
    omega
  fun_induction throughComment depth cs with
  | case1 => exact .nil (.inr rfl)
  | case2 depth c => exact .one (.inr rfl) (none depth)
  | case3 depth c d cs opens ih =>
    obtain ⟨rfl, rfl⟩ := opens
    refine ih.cons_cons (fun b _ _ => ?_) (none depth) (half '/' depth)
    rw [nesting_opens]
    omega
  | case4 c d cs opens closes =>
    obtain ⟨rfl, rfl⟩ := closes
    have done : Reaches (fun body _ => nesting body = 0) [] cs := .nil (.inl rfl)
    refine done.cons_cons (fun b _ _ => ?_) (none 0) (half '*' 0)
    rw [nesting_closes]
    omega
  | case5 c d cs opens closes depth ih =>
    obtain ⟨rfl, rfl⟩ := closes
    refine ih.cons_cons (fun b _ _ => ?_) (none (depth + 1)) (half '*' (depth + 1))
    rw [nesting_closes]
    omega
  | case6 depth c d cs opens closes ih =>
    refine ih.cons (fun b start _ => ?_) (none depth)
    -- What is taken starts with the second character, which makes no pair with the first.
    cases b with
    | nil =>
      rw [nesting_one]
      rfl
    | cons e b =>
      have whole : e :: b <+: d :: cs :=
        start.trans ⟨_, throughComment_append depth (d :: cs)⟩
      obtain rfl := (List.cons_prefix_cons.1 whole).1
      rw [nesting_char opens closes]

/-- A body reaches to the first place where the mark stands again. -/
lemma reaches_throughText {mark : List Char} (some : mark ≠ []) (cs : List Char) :
    Reaches (fun body _ => mark <:+ body) (throughText mark cs).1 (throughText mark cs).2 := by
  have none (_ : List Char) : ¬ mark <:+ [] := fun h => some (List.suffix_nil.1 h)
  fun_induction throughText mark cs with
  | case1 => exact .nil (.inr rfl)
  | case2 c cs found =>
    refine ⟨.inl (List.suffix_refl mark), fun front back split some h => ?_⟩
    have longer := h.length_le
    have whole := congrArg List.length split
    rw [List.length_append] at whole
    exact some (List.eq_nil_of_length_eq_zero (by simp only at whole; omega))
  | case3 c cs other ih =>
    refine ih.cons (fun b start _ => ?_) none
    rw [List.suffix_cons_iff, or_iff_right]
    rintro rfl
    refine other (List.isPrefixOf_iff_prefix.2 (List.cons_prefix_cons.2 ⟨rfl, ?_⟩))
    exact start.trans ⟨_, throughText_append _ cs⟩

/-! ## What is quoted at a place -/

namespace Quotation

/-- Whether a quotation ends exactly there: at the first place where it is closed, or else at the end. -/
def Ends (q : Quotation) (body rest : List Char) : Prop := Reaches q.Closed body rest

/-- A literal has backslash escapes exactly if it says so. -/
lemma starts_literal_iff {before : List Char} {escapes : Bool} :
    (literal escapes).Starts before ↔ escapes = isEscapeLiteral before := by
  rw [Bool.eq_iff_iff]
  refine iff_congr Iff.rfl ?_
  cases before with
  | nil => simp [isEscapeLiteral]
  | cons e front => cases front <;> simp [isEscapeLiteral]

/-- A quotation that starts somewhere is cut there, and ends exactly where it does. -/
lemma exists_quotedAt (q : Quotation) {before : List Char} (start : q.Starts before)
    (cs : List Char) :
    ∃ body rest, quotedAt? before (q.opener ++ cs) = some (q.kind, q.opener ++ body, rest) ∧
      body ++ rest = cs ∧ q.Ends body rest := by
  cases q with
  | literal escapes =>
    obtain rfl := starts_literal_iff.1 start
    refine ⟨_, _, ?_, throughMark_append _ _ cs, reaches_throughMark (by decide) cs⟩
    rw [opener, List.singleton_append, quotedAt?, if_pos rfl]
    rfl
  | name =>
    refine ⟨_, _, ?_, throughMark_append _ _ cs, reaches_throughMark (by decide) cs⟩
    rw [opener, List.singleton_append, quotedAt?, if_neg (by decide), if_pos rfl]
    rfl
  | line =>
    refine ⟨_, _, ?_, throughLine_append cs, reaches_throughLine cs⟩
    rw [opener, List.cons_append, List.singleton_append, quotedAt?, if_neg (by decide),
      if_neg (by decide), if_pos ⟨rfl, rfl⟩]
    rfl
  | block =>
    refine ⟨_, _, ?_, throughComment_append 0 cs, ?_⟩
    · rw [opener, List.cons_append, List.singleton_append, quotedAt?, if_neg (by decide),
        if_neg (by decide), if_neg (by simp), if_pos ⟨rfl, rfl⟩]
      rfl
    · refine (reaches_throughComment 0 cs).shift [] (fun b _ _ => ?_) fun _ _ _ split some =>
        absurd (List.append_eq_nil_iff.1 split).2 some
      show nesting ('/' :: '*' :: b) = 0 ↔ _
      rw [nesting_opens]
      omega
  | dollar tag =>
    obtain ⟨apart, named⟩ := start
    refine ⟨_, _, named.quotedAt_eq apart cs, throughText_append _ cs, ?_⟩
    exact reaches_throughText (List.cons_ne_nil _ _) cs

/-- Where something is quoted, a quotation starts. -/
lemma exists_starts {before cs : List Char} (h : quotedAt? before cs ≠ none) :
    ∃ q : Quotation, q.Starts before ∧ q.opener <+: cs := by
  cases cs with
  | nil => exact absurd rfl h
  | cons c cs =>
    have opens : c = apostrophe ∨ c = '"' ∨ (c = '-' ∧ cs.head? = some '-') ∨
        (c = '/' ∧ cs.head? = some '*') ∨
          (c = '$' ∧ before.head?.any isNameChar = false ∧ (dollarTag? cs).isSome) := by
      by_contra none
      simp only [not_or] at none
      obtain ⟨single, double, dash, slash, dollar⟩ := none
      refine h (quotedAt_eq_none_iff.2 ⟨single, double, dash, slash, fun eq apart => ?_⟩)
      exact Bool.eq_false_iff.2 fun tagged => dollar ⟨eq, apart, tagged⟩
    rcases opens with rfl | rfl | ⟨rfl, second⟩ | ⟨rfl, second⟩ | ⟨rfl, apart, tagged⟩
    · exact ⟨.literal (isEscapeLiteral before), starts_literal_iff.2 rfl, cs, rfl⟩
    · exact ⟨.name, trivial, cs, rfl⟩
    · obtain ⟨cs, rfl⟩ := List.head?_eq_some_iff.1 second
      exact ⟨.line, trivial, cs, rfl⟩
    · obtain ⟨cs, rfl⟩ := List.head?_eq_some_iff.1 second
      exact ⟨.block, trivial, cs, rfl⟩
    · obtain ⟨tag, body, rfl, named⟩ := dollarTag_isSome_iff.1 tagged
      exact ⟨.dollar tag, ⟨apart, named⟩, body, by simp [opener, bodyMark]⟩

end Quotation

/-- What is quoted at a place is a quotation that starts there and ends exactly where it was cut. -/
theorem quotedAt_eq_some_iff {before cs taken rest : List Char} {kind : LexemeKind} :
    quotedAt? before cs = some (kind, taken, rest) ↔
      ∃ (q : Quotation) (body : List Char), q.Starts before ∧ q.Ends body rest ∧ q.kind = kind ∧
        q.opener ++ body = taken ∧ taken ++ rest = cs := by
  constructor
  · intro h
    have some : quotedAt? before cs ≠ none := h ▸ Option.some_ne_none _
    obtain ⟨q, start, cs, rfl⟩ := Quotation.exists_starts some
    obtain ⟨body, rest, found, rfl, ends⟩ := q.exists_quotedAt start cs
    rw [h] at found
    cases found
    exact ⟨q, body, start, ends, rfl, rfl, List.append_assoc _ _ _⟩
  · rintro ⟨q, body, start, ends, rfl, rfl, rfl⟩
    obtain ⟨body', rest', found, same, ends'⟩ := q.exists_quotedAt start (body ++ rest)
    obtain ⟨rfl, rfl⟩ := ends'.unique ends same
    rw [List.append_assoc, found]

/-- Nothing is quoted at a place if and only if no quotation that can start there has its opener. -/
theorem quotedAt_eq_none_iff_opener {before cs : List Char} :
    quotedAt? before cs = none ↔ ∀ q : Quotation, q.Starts before → ¬ q.opener <+: cs := by
  constructor
  · rintro none q start ⟨cs, rfl⟩
    obtain ⟨body, rest, found, -⟩ := q.exists_quotedAt start cs
    rw [none] at found
    cases found
  · intro h
    by_contra some
    obtain ⟨q, start, opened⟩ := Quotation.exists_starts some
    exact h q start opened

/-! ## The lexemes of a statement -/

/-- Whether lexemes are the stretches of code and the quotations of a statement. -/
structure IsScan (sql : List Char) (ls : List Lexeme) : Prop where
  /-- They spell the statement. -/
  spells : text ls = sql
  /-- None is empty. -/
  filled : ∀ l ∈ ls, l.text ≠ []
  /-- Code does not follow code. -/
  apart : ∀ front l m back, ls = front ++ l :: m :: back → l.kind = .code → m.kind ≠ .code
  /-- No quotation starts in code. -/
  unquoted : ∀ front inner tail back, ls = front ++ ⟨.code, inner ++ tail⟩ :: back → tail ≠ [] →
    ∀ q : Quotation, q.Starts (text front ++ inner).reverse → ¬ q.opener <+: tail ++ text back
  /-- What is no code is the opener of a quotation that starts there and reaches to the first place
  that closes it, or to the end of the statement. -/
  quoted : ∀ front l back, ls = front ++ l :: back → l.kind ≠ .code →
    ∃ (q : Quotation) (body : List Char), l = ⟨q.kind, q.opener ++ body⟩ ∧
      q.Starts (text front).reverse ∧ (q.Closed body (text back) ∨ back = []) ∧
        ∀ inner tail, inner ++ tail = body → tail ≠ [] → ¬ q.Closed inner (tail ++ text back)

/-- A text is code if nothing is quoted at any character of it. -/
lemma isCode_iff {before cs rest : List Char} :
    IsCode before cs rest ↔ ∀ inner tail, cs = inner ++ tail → tail ≠ [] →
      quotedAt? (inner.reverse ++ before) (tail ++ rest) = none := by
  constructor
  · rintro h inner tail rfl some
    obtain ⟨c, tail, rfl⟩ := List.exists_cons_of_ne_nil some
    exact (isCode_append.1 h).2.1
  · intro h
    induction cs generalizing before with
    | nil => trivial
    | cons c cs ih =>
      refine ⟨h [] (c :: cs) rfl (List.cons_ne_nil c cs), ih fun inner tail eq some => ?_⟩
      have later := h (c :: inner) tail (congrArg (c :: ·) eq) some
      rwa [List.reverse_cons, List.append_assoc] at later

/-- The lexemes behind some others are cut as well. -/
lemma Cut.drop {before : List Char} {front ls : List Lexeme} (h : Cut before (front ++ ls)) :
    Cut ((text front).reverse ++ before) ls := by
  induction front generalizing before with
  | nil => exact h
  | cons l front ih =>
    have tail : Cut (l.text.reverse ++ before) (front ++ ls) := by
      cases h with
      | quoted _ tail => exact tail
      | code _ _ _ tail => exact tail
    have whole : (text (l :: front)).reverse = (text front).reverse ++ l.text.reverse :=
      List.reverse_append
    rw [whole, List.append_assoc]
    exact ih tail

/-- A quotation is not empty. -/
lemma Cut.ne_nil {before : List Char} {l : Lexeme} {ls : List Lexeme} (h : Cut before (l :: ls)) :
    l.text ≠ [] := by
  cases h with
  | quoted found _ =>
    rintro rfl
    exact Nat.lt_irrefl _ (length_quotedAt_lt found)
  | code some _ _ _ => exact some

/-- The empty text has no lexemes. -/
lemma Cut.eq_nil {before : List Char} {ls : List Lexeme} (h : Cut before ls) (empty : text ls = []) :
    ls = [] := by
  cases ls with
  | nil => rfl
  | cons l ls => exact absurd (List.append_eq_nil_iff.1 empty).1 h.ne_nil

/-- The lexemes of a statement are its code and its quotations, each as long as it has to be. -/
theorem isScan_lexemes (sql : List Char) : IsScan sql (lexemes sql) := by
  have cut {front ls : List Lexeme} (eq : lexemes sql = front ++ ls) : Cut (text front).reverse ls := by
    have drop := (eq ▸ cut_lexemes sql).drop
    rwa [List.append_nil] at drop
  constructor
  · exact text_lexemes sql
  · intro l mem
    obtain ⟨front, back, eq⟩ := List.append_of_mem mem
    exact (cut eq).ne_nil
  · intro front l m back eq code
    cases cut eq with
    | quoted found _ => exact absurd code (quotedAt_append found).2
    | code _ _ first _ => exact first m rfl
  · intro front inner tail back eq some q start
    cases cut eq with
    | quoted found _ => exact absurd rfl (quotedAt_append found).2
    | code _ inside _ _ =>
      rw [List.reverse_append] at start
      exact quotedAt_eq_none_iff_opener.1 (isCode_iff.1 inside inner tail rfl some) q start
  · intro front l back eq other
    cases cut eq with
    | quoted found tail =>
      obtain ⟨q, body, start, ends, rfl, rfl, -⟩ := quotedAt_eq_some_iff.1 found
      exact ⟨q, body, rfl, start, ends.ends.imp_right tail.eq_nil, ends.first⟩
    | code => exact absurd rfl other

namespace IsScan
variable {sql : List Char} {ls : List Lexeme} (h : IsScan sql ls)
include h

/-- The last lexemes of a scan are a cut of what they spell. -/
lemma cut (front : List Lexeme) {back : List Lexeme} (eq : ls = front ++ back) :
    Cut (text front).reverse back := by
  induction back generalizing front with
  | nil => exact .nil
  | cons l back ih =>
    have tail : Cut (l.text.reverse ++ (text front).reverse) back := by
      have next := ih (front ++ [l]) (by rw [eq, List.append_assoc]; rfl)
      rw [text_append, List.reverse_append] at next
      simpa [text] using next
    obtain ⟨kind, t⟩ := l
    by_cases code : kind = .code
    · subst code
      refine .code (h.filled ⟨.code, t⟩ (by simp [eq])) (isCode_iff.2 fun inner more split some => ?_)
        ?_ tail
      · refine quotedAt_eq_none_iff_opener.2 fun q start => ?_
        subst split
        refine h.unquoted front inner more back eq some q ?_
        rwa [List.reverse_append]
      · intro m first
        obtain ⟨back, rfl⟩ := List.head?_eq_some_iff.1 first
        exact h.apart front _ m back eq rfl
    · obtain ⟨q, body, same, start, closed, first⟩ := h.quoted front ⟨kind, t⟩ back eq code
      obtain ⟨rfl, rfl⟩ := Lexeme.mk.inj same
      refine .quoted (quotedAt_eq_some_iff.2 ⟨q, body, start, ⟨closed.imp_right ?_, first⟩, rfl, rfl, rfl⟩)
        tail
      rintro rfl
      rfl

/-- What opens a quotation of its own accord is nowhere in code. -/
lemma not_infix {front back : List Lexeme} {t : List Char} (eq : ls = front ++ ⟨.code, t⟩ :: back)
    (q : Quotation) (anywhere : ∀ before, q.Starts before) (filled : q.opener ≠ []) :
    ¬ q.opener <:+: t := by
  rintro ⟨inner, tail, rfl⟩
  have some : q.opener ++ tail ≠ [] := List.append_ne_nil_of_left_ne_nil filled tail
  rw [List.append_assoc] at eq
  refine h.unquoted front inner _ back eq some q (anywhere _) ?_
  exact ⟨tail ++ text back, (List.append_assoc _ _ _).symm⟩

/-- No mark of a literal or of a quoted name and no beginning of a comment is in code. -/
lemma clean {t : List Char} (mem : ⟨.code, t⟩ ∈ ls) :
    apostrophe ∉ t ∧ '"' ∉ t ∧ ¬ ['-', '-'] <:+: t ∧ ¬ ['/', '*'] <:+: t := by
  obtain ⟨front, back, eq⟩ := List.append_of_mem mem
  refine ⟨fun single => ?_, fun double => ?_, ?_, ?_⟩
  · -- A literal can start anywhere, with escapes or without them.
    obtain ⟨inner, tail, rfl⟩ := List.append_of_mem single
    exact h.unquoted front inner _ back eq (List.cons_ne_nil _ _) (.literal _)
      (Quotation.starts_literal_iff.2 rfl) ⟨tail ++ text back, rfl⟩
  · obtain ⟨inner, tail, rfl⟩ := List.append_of_mem double
    exact h.unquoted front inner _ back eq (List.cons_ne_nil _ _) .name trivial
      ⟨tail ++ text back, rfl⟩
  · exact h.not_infix eq .line (fun _ => trivial) nofun
  · exact h.not_infix eq .block (fun _ => trivial) nofun

/-- A statement has no other such lexemes. -/
theorem eq_lexemes : ls = lexemes sql := by
  have cut : Cut [] ls := h.cut [] rfl
  rw [← h.spells, lexemes_of_cut cut]

end IsScan

end Tenancy.Sql
