import Tenancy.Proofs.Sql.Head
import Tenancy.Proofs.Sql.Marking
import Tenancy.Proofs.Sql.Mention

/-!
# The body of a function

A function is defined by code around a dollar-quoted body, and the body is code with literals. `Tells`
follows such a text from its end to its beginning, so that what it mentions can be told from its code;
`Telling` is what each part of it has to be like, and there is a rule for each way to put parts
together. `lexemes_body` cuts the definition at the marks of the body.
-/

namespace Tenancy.Sql
open Text

/-- Whether the words of a lexeme are as `Q` says, if it is code, and it quotes nothing but a literal or
nothing at all. -/
def Told (Q : List Char → Prop) (l : Lexeme) : Prop :=
  match l.kind with
  | .code => ∀ w ∈ words l.text, Q w
  | .literal => True
  | .dollarQuoted => dollarBody l.text = []
  | .quotedName | .comment => False

/-- Whether this is so of a text wherever it goes on. -/
def Tells (Q : List Char → Prop) (cs : List Char) : Prop :=
  ∀ code before, Apart code.reverse cs → (∀ w ∈ words code.reverse, Q w) →
    ∀ l ∈ lexemesFrom code before cs, Told Q l

/-- The empty text mentions nothing. -/
lemma not_mentions_nil {name : List Char} : ¬ Mentions [] name := by
  have none : lexemes [] = [] := by
    rw [lexemes, lexemesFrom]
    rfl
  intro h
  cases h with
  | word mem => rw [none] at mem; cases mem
  | quoted mem => rw [none] at mem; cases mem
  | body mem => rw [none] at mem; cases mem

namespace Tells
variable {Q : List Char → Prop} {cs : List Char}

/-- The code that was gathered tells its words. -/
lemma told_gathered {code : List Char} (h : ∀ w ∈ words code.reverse, Q w) :
    ∀ l ∈ gathered code, Told Q l := by
  intro l mem
  cases code with
  | nil => cases mem
  | cons c code =>
    rw [gathered, List.mem_singleton] at mem
    subst mem
    exact h

/-- The empty text tells no words. -/
lemma nil : Tells Q [] := by
  intro code before _ h
  rw [lexemesFrom]
  exact told_gathered h

/-- A piece of code in front tells its own words. -/
lemma code {piece : List Char} (some : piece ≠ []) (bare : piece.all isBare)
    (words_piece : ∀ w ∈ words piece, Q w) (apart : Apart piece cs) (rest : Tells Q cs) :
    Tells Q (piece ++ cs) := by
  intro code before before_piece h
  have apart' : Apart code.reverse piece := by
    rcases before_piece with last | first
    · exact .inl last
    · refine .inr ?_
      obtain ⟨c, piece, rfl⟩ := List.exists_cons_of_ne_nil some
      simpa using first
  rw [lexemesFrom_append bare]
  refine rest _ _ ?_ ?_
  · rcases apart with last | first
    · refine .inl ?_
      obtain ⟨front, c, rfl⟩ := (List.eq_nil_or_concat piece).resolve_left some
      rw [List.concat_eq_append] at last ⊢
      rw [List.getLast?_concat] at last
      simpa using last
    · exact .inr first
  · rw [List.reverse_append, List.reverse_reverse, words_append apart']
    intro w mem
    rcases List.mem_append.1 mem with mem | mem
    · exact h w mem
    · exact words_piece w mem

/-- What a text starts with that is no bare character: it is code, or is quoted with what follows it. -/
lemma cons {c : Char} (gap : isWord c = false)
    (here : ∀ before, quotedAt? before (c :: cs) = none ∧ Tells Q cs ∨
      ∃ kind taken rest, quotedAt? before (c :: cs) = some (kind, taken, rest) ∧
        Told Q ⟨kind, taken⟩ ∧ Tells Q rest) :
    Tells Q (c :: cs) := by
  intro code before _ h l mem
  rw [lexemesFrom_cons] at mem
  rcases here before with ⟨open', tells⟩ | ⟨kind, taken, rest, quoted, told, tells⟩
  · rw [open'] at mem
    have apart : Apart code.reverse [c] := .inr (by simpa using gap)
    refine tells _ _ (.inl (by simpa using gap)) ?_ l mem
    rw [List.reverse_cons, words_append apart, words_gap gap]
    simpa [words, wordsFrom, finished] using h
  · rw [quoted] at mem
    rcases List.mem_append.1 mem with mem | mem
    · exact told_gathered h l mem
    · rcases List.mem_cons.1 mem with rfl | mem
      · exact told
      · exact tells [] _ (.inl rfl) (by simp [words, wordsFrom, finished]) l mem

/-- A literal ends at its closing mark, if it holds neither that nor a backslash. -/
lemma throughMark_literal {inner : List Char} (mark : apostrophe ∉ inner) (escape : '\\' ∉ inner)
    (follows : cs.head? ≠ Option.some apostrophe) (escapes : Bool) :
    throughMark apostrophe escapes (inner ++ apostrophe :: cs) = (inner ++ [apostrophe], cs) := by
  induction inner with
  | nil =>
    cases cs with
    | nil => rfl
    | cons c cs =>
      have other : c ≠ apostrophe := by simpa using follows
      rw [List.nil_append, throughMark, if_neg (by simp [apostrophe]), if_pos rfl, if_neg other]
      rfl
  | cons c inner ih =>
    simp only [List.mem_cons, not_or] at mark escape
    obtain ⟨d, more, eq⟩ := List.exists_cons_of_ne_nil
      (show inner ++ apostrophe :: cs ≠ [] by simp)
    have rest := ih mark.2 escape.2
    rw [eq] at rest
    rw [List.cons_append, eq, throughMark, if_neg (by simp [Ne.symm escape.1]),
      if_neg (Ne.symm mark.1), rest]
    rfl

/-- A literal in front tells none. -/
lemma literal {inner : List Char} (mark : apostrophe ∉ inner) (escape : '\\' ∉ inner)
    (follows : cs.head? ≠ Option.some apostrophe) (rest : Tells Q cs) :
    Tells Q (apostrophe :: (inner ++ apostrophe :: cs)) := by
  refine .cons (by decide) fun before =>
    .inr ⟨.literal, apostrophe :: (inner ++ [apostrophe]), cs, ?_, trivial, rest⟩
  rw [quotedAt?, if_pos rfl, throughMark_literal mark escape follows]
  rfl

/-- Nor does a single dash. -/
lemma dash (single : cs.head? ≠ some '-') (rest : Tells Q cs) : Tells Q ('-' :: cs) := by
  refine .cons (by decide) fun before => .inl ⟨?_, rest⟩
  simp [quotedAt?, apostrophe, single]

/-- What such a text mentions are words of its code. -/
theorem mentions (tells : Tells Q cs) {name : List Char} (h : Mentions cs name) :
    ∃ w, Q w ∧ name = lower w := by
  have all := tells [] [] (.inl rfl) (by simp [words, wordsFrom, finished])
  cases h with
  | word mem memw => exact ⟨_, all _ mem _ memw, rfl⟩
  | quoted mem => exact (all _ mem).elim
  | body mem inside =>
    rw [show dollarBody _ = [] from all _ mem] at inside
    exact absurd inside not_mentions_nil

end Tells

/-! ## Parts -/

/-- Whether each dollar sign in a text ends a literal. -/
def isUntagged : List Char → Bool
  | [] => true
  | c :: cs => (c ≠ '$' || cs.head? = some apostrophe) && isUntagged cs

/-- Each dollar sign of two texts ends a literal if it does in each. -/
lemma isUntagged_append {cs ds : List Char} (hc : isUntagged cs) (hd : isUntagged ds) :
    isUntagged (cs ++ ds) := by
  induction cs with
  | nil => exact hd
  | cons c cs ih =>
    obtain ⟨head, tail⟩ := Bool.and_eq_true_iff.1 hc
    rw [List.cons_append, isUntagged, ih tail, Bool.and_true]
    rw [Bool.or_eq_true] at head ⊢
    rcases head with other | ends
    · exact .inl other
    · refine .inr ?_
      cases cs with
      | nil => simp at ends
      | cons d cs => exact ends

/-- So it does where there is none. -/
lemma isUntagged_of_not_mem {cs : List Char} (h : '$' ∉ cs) : isUntagged cs := by
  induction cs with
  | nil => rfl
  | cons c cs ih =>
    simp only [List.mem_cons, not_or] at h
    rw [isUntagged, ih h.2, Bool.and_true, Bool.or_eq_true]
    exact .inl (decide_eq_true (Ne.symm h.1))

/-- No parameter is numbered where no dollar sign stands before anything but an apostrophe. -/
lemma highestParameter_append {cs : List Char} (h : isUntagged cs) (best : Nat) (ds : List Char) :
    highestParameter best (cs ++ ds) = highestParameter best ds := by
  induction cs generalizing best with
  | nil => rfl
  | cons c cs ih =>
    obtain ⟨head, tail⟩ := Bool.and_eq_true_iff.1 h
    rw [List.cons_append, highestParameter]
    split
    · next dollar =>
      subst dollar
      obtain ⟨rest, rfl⟩ : ∃ rest, cs = apostrophe :: rest := by
        cases cs with
        | nil => simp at head
        | cons d rest => exact ⟨rest, by simpa using head⟩
      have digits : (apostrophe :: rest ++ ds).takeWhile Char.isDigit = [] := rfl
      have none : max best 0 = best := Nat.max_zero best
      dsimp only
      rw [digits, List.foldl_nil, none, ih tail]
    · exact ih tail best

/-- Whether a text can be a part of a body: in front of whatever starts with a gap it tells what its
words are, and no mark of a body starts in it. -/
structure Telling (Q : List Char → Prop) (s : List Char) : Prop where
  tells : ∀ cs : List Char, cs.head?.any isWord = false → cs.head? ≠ some apostrophe →
    Tells Q cs → Tells Q (s ++ cs)
  untagged : isUntagged s

namespace Telling
variable {Q : List Char → Prop} {s t : List Char}

/-- No dollar sign is among characters that open nothing. -/
lemma not_mem_of_isBare (bare : s.all isBare) : '$' ∉ s := fun mem =>
  absurd (List.all_eq_true.1 bare _ mem) (by decide)

/-- A piece of code tells its words wherever a gap follows. -/
lemma code (some : s ≠ []) (bare : s.all isBare) (h : ∀ w ∈ words s, Q w) : Telling Q s where
  tells _ gap _ rest := .code some bare h (.inr gap) rest
  untagged := isUntagged_of_not_mem (not_mem_of_isBare bare)

/-- So does one that ends with no word, in front of another text that tells its words. -/
lemma lead (some : s ≠ []) (bare : s.all isBare) (h : ∀ w ∈ words s, Q w)
    (ends : s.getLast?.any isWord = false) (ht : Telling Q t) : Telling Q (s ++ t) where
  tells cs gap mark rest := by
    rw [List.append_assoc]
    exact .code some bare h (.inl ends) (ht.tells cs gap mark rest)
  untagged := isUntagged_append (isUntagged_of_not_mem (not_mem_of_isBare bare)) ht.untagged

/-- Two texts that tell their words do so together, if none goes on where they meet. -/
lemma append (hs : Telling Q s) (ht : Telling Q t) (some : t ≠ [])
    (starts : t.head?.any isWord = false) (mark : t.head? ≠ Option.some apostrophe) :
    Telling Q (s ++ t) where
  tells cs gap mark' rest := by
    obtain ⟨c, t, rfl⟩ := List.exists_cons_of_ne_nil some
    rw [List.append_assoc]
    exact hs.tells _ starts mark (ht.tells cs gap mark' rest)
  untagged := isUntagged_append hs.untagged ht.untagged

/-- A literal tells no words. -/
lemma literal (mark : apostrophe ∉ s) (escape : '\\' ∉ s) (untagged : isUntagged (s ++ [apostrophe])) :
    Telling Q (apostrophe :: (s ++ [apostrophe])) where
  tells cs _ follows rest := by
    have whole : apostrophe :: (s ++ [apostrophe]) ++ cs = apostrophe :: (s ++ apostrophe :: cs) := by
      simp
    rw [whole]
    exact .literal mark escape follows rest
  untagged := by
    rw [isUntagged, untagged]
    rfl

/-- A single dash in front makes no difference. -/
lemma dash (single : s.head? ≠ Option.some '-') (some : s ≠ []) (h : Telling Q s) : Telling Q ('-' :: s) where
  tells cs gap mark rest := by
    obtain ⟨c, s, rfl⟩ := List.exists_cons_of_ne_nil some
    exact .dash single (h.tells cs gap mark rest)
  untagged := by
    rw [isUntagged, h.untagged]
    rfl

end Telling

/-! ## The whole definition -/

/-- The mark at either end of a body. -/
def bodyMark (tag : List Char) : List Char := '$' :: (tag ++ ['$'])

/-- Whether a mark can hold a text. -/
structure IsTag (tag : List Char) : Prop where
  name : tag.all isNameChar
  start : tag.head?.any Char.isDigit = false

/-- A mark at the start of a text is all that has to be passed. -/
lemma throughText_mark (mark : List Char) (some : mark ≠ []) (rest : List Char) :
    throughText mark (mark ++ rest) = (mark, rest) := by
  have found : mark.isPrefixOf (mark ++ rest) :=
    List.isPrefixOf_iff_prefix.2 (List.prefix_append _ _)
  cases mark with
  | nil => exact absurd rfl some
  | cons c mark =>
    rw [List.cons_append] at found ⊢
    rw [throughText, if_pos found, ← List.cons_append, List.drop_left]

section Body
variable {tag : List Char} (h : IsTag tag)
include h

/-- No dollar sign is in a tag. -/
lemma IsTag.not_mem : '$' ∉ tag := fun mem =>
  absurd (List.all_eq_true.1 h.name _ mem) (by decide)

/-- The tag at the start of a body is found. -/
lemma IsTag.dollarTag_eq (body : List Char) : dollarTag? (tag ++ '$' :: body) = some (tag, body) := by
  have name := List.all_eq_true.1 h.name
  have other : isNameChar '$' = false := by decide
  unfold dollarTag?
  rw [List.takeWhile_append_of_pos name, List.dropWhile_append_of_pos name]
  simp [other, h.start]

/-- What is between two tags is the body. -/
lemma IsTag.dollarBody_eq (body : List Char) : dollarBody (bodyMark tag ++ body) = body := by
  have name : ∀ c ∈ tag, decide (c ≠ '$') := by
    intro c mem
    refine decide_eq_true ?_
    rintro rfl
    exact h.not_mem mem
  have whole : (bodyMark tag ++ body).drop 1 = tag ++ '$' :: body := by
    simp [bodyMark]
  rw [dollarBody, whole, List.dropWhile_append_of_pos name]
  simp

/-- Where no name stands in front of the first mark, the body is quoted up to the second. -/
lemma IsTag.quotedAt_eq {before : List Char} (start : before.head?.any isNameChar = false)
    (body : List Char) :
    quotedAt? before (bodyMark tag ++ body) =
      some (.dollarQuoted, bodyMark tag ++ (throughText (bodyMark tag) body).1,
        (throughText (bodyMark tag) body).2) := by
  have whole : bodyMark tag ++ body = '$' :: (tag ++ '$' :: body) := by
    simp [bodyMark]
  rw [whole]
  simp [quotedAt?, apostrophe, start, h.dollarTag_eq, bodyMark]

/-- The second mark is found behind what the parts of a body are like. -/
lemma IsTag.throughText_eq {inner : List Char} (untagged : isUntagged inner) (rest : List Char) :
    throughText (bodyMark tag) (inner ++ (bodyMark tag ++ rest)) =
      (inner ++ bodyMark tag, rest) := by
  induction inner with
  | nil => exact throughText_mark _ (List.cons_ne_nil _ _) rest
  | cons c inner ih =>
    obtain ⟨head, tail⟩ := Bool.and_eq_true_iff.1 untagged
    have differs : ¬ (bodyMark tag).isPrefixOf (c :: (inner ++ (bodyMark tag ++ rest))) := by
      rw [List.isPrefixOf_iff_prefix, bodyMark, List.cons_prefix_cons]
      rintro ⟨rfl, start⟩
      have quote : inner.head? = some apostrophe := by simpa using head
      obtain ⟨inner, rfl⟩ := List.head?_eq_some_iff.1 quote
      -- The mark goes on with a character of a name or with its last dollar sign.
      cases tag with
      | nil =>
        rw [List.nil_append, List.cons_append, List.cons_prefix_cons] at start
        exact absurd start.1 (by decide)
      | cons d tag =>
        rw [List.cons_append, List.cons_append, List.cons_prefix_cons] at start
        have name := (Bool.and_eq_true_iff.1 h.name).1
        rw [start.1] at name
        exact absurd name (by decide)
    rw [List.cons_append, throughText, if_neg differs, ih tail]
    rfl

/-- The second mark, as what the body ends with, tells nothing. -/
lemma Tells.mark {Q : List Char → Prop} (hQ : ∀ w ∈ words tag, Q w) (some : tag ≠ []) :
    Tells Q (bodyMark tag) := by
  have gap : isWord '$' = false := by decide
  have last : Tells Q ['$'] := by
    refine .cons gap fun before => .inl ⟨?_, .nil⟩
    simp [quotedAt?, apostrophe, dollarTag?]
  have bare : tag.all isBare := by
    refine all_of_imp (fun c name => ?_) h.name
    exact isNameChar_induction (isBare · = true) (by decide) name
  have inside : Tells Q (tag ++ ['$']) := .code some bare hQ (.inr (by simpa using gap)) last
  refine .cons gap fun before => ?_
  cases name : before.head?.any isNameChar with
  | true => exact .inl ⟨by simp [quotedAt?, apostrophe, name], inside⟩
  | false =>
    refine .inr ⟨.dollarQuoted, bodyMark tag ++ [], [], ?_, h.dollarBody_eq [], .nil⟩
    have found := h.quotedAt_eq name []
    rwa [List.append_nil] at found

/-- The definition of a function consists of the code before the body, the body and the code after
it. -/
theorem lexemes_body {head inner tail : List Char} (some : head ≠ []) (bare : head.all isBare)
    (ends : head.getLast?.any isNameChar = false) (untagged : isUntagged inner) (some' : tail ≠ [])
    (bare' : tail.all isBare) :
    lexemes (head ++ (bodyMark tag ++ (inner ++ (bodyMark tag ++ tail)))) =
      [⟨.code, head⟩, ⟨.dollarQuoted, bodyMark tag ++ (inner ++ bodyMark tag)⟩, ⟨.code, tail⟩] := by
  have start : head.reverse.head?.any isNameChar = false := by simpa using ends
  have here := h.quotedAt_eq start (inner ++ (bodyMark tag ++ tail))
  rw [h.throughText_eq untagged tail] at here
  have last (before : List Char) : lexemesFrom [] before tail = [⟨.code, tail⟩] := by
    have all := lexemesFrom_append bare' [] before []
    rw [List.append_nil, List.append_nil, lexemesFrom, gathered_reverse some'] at all
    exact all
  rw [lexemes, lexemesFrom_append bare, List.append_nil]
  unfold bodyMark at here ⊢
  rw [List.cons_append] at here ⊢
  rw [lexemesFrom_cons, here]
  dsimp only
  rw [gathered_reverse some, last]
  rfl

end Body
end Tenancy.Sql
