import Tenancy.Lease
import Tenancy.Proofs.Sql.Gap
import Tenancy.Proofs.Text.Folding
import Tenancy.Proofs.Text.Words

/-!
# Marking is a matter of words

A lease puts its mark in front of names by looking for each name at each place of a text. For names that
are words, `markWords_eq_mapWords` says that this is the same as going through the text word by word and
marking those that are names in some case. For names of characters of names in ASCII text, `markWords_eq`
says the same of names in lower case. Names with dollar signs are found at no place of a text without them
(`wordLength_dollar`).
-/

namespace Tenancy
open Text Sql

/-- Whether a name is a word of characters of names in lower case, as the names of tables are. -/
def IsPlainName (n : List Char) : Prop :=
  n ≠ [] ∧ n.all isNameChar ∧ n.map Char.toLower = n
deriving Decidable

/-- A word with the mark in front of it, if it is one of the names. -/
def markWord (names : List (List Char)) (mark w : List Char) : List Char :=
  if w.map Char.toLower ∈ names then mark ++ w.map Char.toLower else w

/-- Whether a word is one of the names in some case. -/
def isNamed (names : List (List Char)) (w : List Char) : Bool :=
  names.any fun n => n.map foldChar = w.map foldChar

/-- A word is named if one of the names folds like it. -/
lemma isNamed_iff {names : List (List Char)} {w : List Char} :
    isNamed names w = true ↔ ∃ n ∈ names, n.map foldChar = w.map foldChar := by
  rw [isNamed, List.any_eq_true]
  simp only [decide_eq_true_eq]

/-- A word in lower case with the mark in front of it, if it is one of the names in some case. -/
def leaseWord (names : List (List Char)) (mark w : List Char) : List Char :=
  if isNamed names w then mark ++ lower w else w

/-- A condition that all characters meet may be weakened. -/
lemma all_of_imp {cs : List Char} {p q : Char → Bool} (h : ∀ c, p c → q c) (hc : cs.all p) :
    cs.all q := List.all_eq_true.2 fun c mem => h c (List.all_eq_true.1 hc c mem)

namespace Sql

/-- What follows a text that is a word but for the case is found behind it. -/
lemma afterFolded_append {ws taken : List Char} (h : taken.map foldChar = ws.map foldChar)
    (rest : List Char) : afterFolded? ws (taken ++ rest) = some rest := by
  induction ws generalizing taken with
  | nil =>
    obtain rfl : taken = [] := List.map_eq_nil_iff.1 h
    rfl
  | cons w ws ih =>
    cases taken with
    | nil => cases h
    | cons c taken =>
      rw [List.map_cons, List.map_cons, List.cons.injEq] at h
      rw [List.cons_append, afterFolded?, if_pos h.1, ih h.2]

/-- Case folding of a text of ASCII is lower case. -/
lemma map_foldChar {cs : List Char} (h : cs.all isAscii) :
    cs.map foldChar = cs.map Char.toLower :=
  List.map_congr_left fun c mem => foldChar_of_isAscii (List.all_eq_true.1 h c mem)

/-- What folds alike is a word together. -/
lemma all_isWord_of_fold {cs ds : List Char} (h : cs.map foldChar = ds.map foldChar)
    (hd : ds.all isWord) : cs.all isWord := by
  refine List.all_eq_true.2 fun c mem => ?_
  have among : foldChar c ∈ ds.map foldChar := h ▸ List.mem_map_of_mem mem
  obtain ⟨d, memd, eq⟩ := List.mem_map.1 among
  rw [isWord_of_fold eq.symm, List.all_eq_true.1 hd d memd]

/-- Two words that start a text and end there are the same. -/
lemma eq_of_words {taken rest w more : List Char} (ht : taken.all isWord) (hw : w.all isWord)
    (ends : more.head?.any isWord = false) (stops : rest.head?.any isWord = false)
    (eq : w ++ more = taken ++ rest) : taken = w := by
  rcases List.append_eq_append_iff.1 eq with ⟨gap, longer, left⟩ | ⟨gap, longer, left⟩
  · cases gap with
    | nil => simpa using longer
    | cons c gap =>
      rw [left] at ends
      rw [longer, List.all_append, Bool.and_eq_true, List.all_cons, Bool.and_eq_true] at ht
      simp [ht.2.1] at ends
  · cases gap with
    | nil => simpa using longer.symm
    | cons c gap =>
      rw [left] at stops
      rw [longer, List.all_append, Bool.and_eq_true, List.all_cons, Bool.and_eq_true] at hw
      simp [hw.2.1] at stops

end Sql

/-- Whether a name stands as a whole word at the head of a text. -/
def stands (before : Option Char) (cs name : List Char) : Bool :=
  match afterFolded? name cs with
  | none => false
  | some rest => boundary ((cs.take name.length).getLast?.or before) rest.head?

/-- At a boundary the first name that stands there is taken. -/
lemma wordLength_eq (names : List (List Char)) (before : Option Char) (cs : List Char) :
    wordLength? names before cs =
      if boundary before cs.head? then (names.find? (stands before cs)).map List.length
      else none := rfl

/-- Whether a name is a word. -/
def IsWordName (n : List Char) : Prop := n ≠ [] ∧ n.all isWord

namespace IsWordName
variable {n : List Char}

/-- No word stands at a character that is in none. -/
lemma stands_gap (word : IsWordName n) {c : Char} (gap : isWord c = false)
    (before : Option Char) (cs : List Char) : stands before (c :: cs) n = false := by
  obtain ⟨some, chars⟩ := word
  obtain ⟨d, n, rfl⟩ := List.exists_cons_of_ne_nil some
  have differ : foldChar c ≠ foldChar d := by
    intro eq
    rw [isWord_of_fold eq, (Bool.and_eq_true_iff.1 chars).1] at gap
    cases gap
  simp [stands, afterFolded?, differ]

/-- None stands at the end. -/
lemma stands_nil (word : IsWordName n) (before : Option Char) : stands before [] n = false := by
  obtain ⟨d, n, rfl⟩ := List.exists_cons_of_ne_nil word.1
  rfl

/-- A name stands where it is what a whole word spells. -/
lemma stands_word (word : IsWordName n) {w rest : List Char} (some : w ≠ []) (hw : w.all isWord)
    (ends : rest.head?.any isWord = false) (before : Option Char) :
    stands before (w ++ rest) n = true ↔ n.map foldChar = w.map foldChar := by
  -- A text of word characters ends in one.
  have last {cs : List Char} (some : cs ≠ []) (h : cs.all isWord) :
      (cs.getLast?.or before).any isWord := by
    have final := List.all_eq_true.1 h (cs.getLast some) (List.getLast_mem some)
    rw [List.getLast?_eq_some_getLast some]
    simpa using final
  constructor
  · intro h
    rw [stands] at h
    split at h
    · cases h
    · next after read =>
      obtain ⟨taken, eq, folds⟩ := afterFolded_eq_some read
      have len : taken.length = n.length := by simpa using congrArg List.length folds
      have chars := all_isWord_of_fold folds word.2
      have nonempty : taken ≠ [] := by
        rintro rfl
        exact word.1 (List.length_eq_zero_iff.1 len.symm)
      rw [eq, ← len, List.take_left, boundary, last nonempty chars] at h
      obtain rfl := eq_of_words chars hw ends (by simpa using h) eq
      exact folds.symm
  · intro folds
    have len : n.length = w.length := by simpa using congrArg List.length folds
    rw [stands, afterFolded_append folds.symm]
    dsimp only
    rw [len, List.take_left, boundary, last some hw, ends]
    rfl

end IsWordName

/-- Inside of a word nothing is marked. -/
lemma markWords_rest (names : List (List Char)) (mark : List Char) {b : Char} (hb : isWord b)
    {w : List Char} (hw : w.all isWord) (rest : List Char) (ended : Bool) :
    ∃ ended' b', isWord b' ∧ markWords names mark ended (some b) (w ++ rest) =
      w ++ markWords names mark ended' (some b') rest := by
  induction w generalizing b ended with
  | nil => exact ⟨ended, b, hb, rfl⟩
  | cons c w ih =>
    obtain ⟨hc, tail⟩ := Bool.and_eq_true_iff.1 hw
    have inside : wordLength? names (some b) (c :: (w ++ rest)) = none := by
      simp [wordLength_eq, boundary, hb, hc]
    obtain ⟨ended', b', hb', eq⟩ := ih hc tail false
    refine ⟨ended', b', hb', ?_⟩
    rw [List.cons_append, markWords, inside]
    exact congrArg (c :: ·) eq

section Marks
variable {names : List (List Char)} {mark : List Char}

section Words
variable (word : ∀ n ∈ names, IsWordName n)
include word

/-- No name is found at a character that is in no word. -/
lemma wordLength_gap {c : Char} (gap : isWord c = false) (before : Option Char) (cs : List Char) :
    wordLength? names before (c :: cs) = none := by
  rw [wordLength_eq]
  split
  · rw [Option.map_eq_none_iff, List.find?_eq_none]
    intro n mem
    rw [(word n mem).stands_gap gap]
    exact Bool.false_ne_true
  · rfl

/-- None is found at the end. -/
lemma wordLength_nil (before : Option Char) : wordLength? names before [] = none := by
  rw [wordLength_eq]
  split
  · rw [Option.map_eq_none_iff, List.find?_eq_none]
    intro n mem
    rw [(word n mem).stands_nil]
    exact Bool.false_ne_true
  · rfl

/-- A whole word is found if it is one of the names. -/
lemma wordLength_word {w rest : List Char} (some : w ≠ []) (hw : w.all isWord)
    (ends : rest.head?.any isWord = false) {before : Option Char} (starts : before.any isWord = false) :
    wordLength? names before (w ++ rest) = if isNamed names w then Option.some w.length else none := by
  have border : boundary before (w ++ rest).head? := by
    obtain ⟨c, w, rfl⟩ := List.exists_cons_of_ne_nil some
    simp [boundary, starts, (Bool.and_eq_true_iff.1 hw).1]
  rw [wordLength_eq, if_pos border]
  cases found : names.find? (stands before (w ++ rest)) with
  | none =>
    have none := List.find?_eq_none.1 found
    rw [if_neg]
    · rfl
    · intro named
      obtain ⟨n, mem, folds⟩ := List.any_eq_true.1 named
      exact none n mem (((word n mem).stands_word some hw ends before).2 (of_decide_eq_true folds))
  | some n =>
    have mem := List.mem_of_find?_eq_some found
    have folds := ((word n mem).stands_word some hw ends before).1 (List.find?_some found)
    have len : n.length = w.length := by simpa using congrArg List.length folds
    have named : isNamed names w := List.any_eq_true.2 ⟨n, mem, decide_eq_true folds⟩
    rw [if_pos named, Option.map_some, len]

/-- Marking a text is marking each of its words. -/
theorem markWords_eq_mapWords {cs : List Char} (ended : Bool) {before : Option Char}
    (starts : before.any isWord = false ∨ cs.head?.any isWord = false) :
    markWords names mark ended before cs = mapWords (leaseWord names mark) cs := by
  induction cs using wordwise generalizing ended before with
  | nil =>
    rw [markWords, wordLength_nil word]
    rfl
  | gap c cs gap ih =>
    rw [markWords, wordLength_gap word gap, mapWords_gap gap]
    exact congrArg (c :: ·) (ih false (.inl (by simpa using gap)))
  | word w rest some chars ends ih =>
    have outside : before.any isWord = false := by
      rcases starts with outside | head
      · exact outside
      · obtain ⟨c, w, rfl⟩ := List.exists_cons_of_ne_nil some
        rw [List.cons_append, List.head?_cons, Option.any_some, (Bool.and_eq_true_iff.1 chars).1] at head
        cases head
    have length := wordLength_word word some chars ends outside
    rw [mapWords_word some chars ends, leaseWord]
    obtain ⟨c, w, rfl⟩ := List.exists_cons_of_ne_nil some
    rw [List.cons_append] at length ⊢
    rw [markWords]
    cases named : isNamed names (c :: w) with
    | true =>
      rw [if_pos named] at length
      rw [length, if_pos rfl]
      dsimp only [List.length_cons]
      rw [← List.cons_append, ← List.length_cons (a := c), List.take_left]
      have drop : (w ++ rest).drop w.length = rest := List.drop_left
      rw [drop]
      exact congrArg _ (ih true (.inr ends))
    | false =>
      rw [if_neg (Bool.eq_false_iff.1 named)] at length
      rw [length, if_neg Bool.false_ne_true]
      obtain ⟨first, others⟩ := Bool.and_eq_true_iff.1 chars
      obtain ⟨ended', b, -, eq⟩ := markWords_rest names mark first others rest false
      dsimp only
      rw [eq, ih ended' (.inr ends)]
      rfl

end Words

/-- A plain name is a word. -/
lemma IsPlainName.isWordName {n : List Char} (plain : IsPlainName n) : IsWordName n :=
  ⟨plain.1, all_of_imp (fun _ => isWord_of_isNameChar) plain.2.1⟩

/-- A lease on plain names marks a word of ASCII by its lower case. -/
lemma leaseWord_eq_markWord (plain : ∀ n ∈ names, IsPlainName n) {w : List Char} (ascii : w.all isAscii) :
    leaseWord names mark w = markWord names mark w := by
  have same : isNamed names w ↔ w.map Char.toLower ∈ names := by
    have folds {n : List Char} (mem : n ∈ names) : n.map foldChar = n := by
      obtain ⟨-, chars, lowered⟩ := plain n mem
      rw [map_foldChar (all_of_imp (fun _ => isAscii_of_isNameChar) chars), lowered]
    rw [isNamed, List.any_eq_true, ← map_foldChar ascii]
    constructor
    · rintro ⟨n, mem, eq⟩
      rwa [← of_decide_eq_true eq, folds mem]
    · exact fun mem => ⟨_, mem, decide_eq_true (folds mem)⟩
  rw [leaseWord, markWord, lower_of_isAscii ascii]
  simp only [same]

/-- In a text of ASCII the words that are marked are the names in lower case. -/
theorem markWords_eq (plain : ∀ n ∈ names, IsPlainName n) {cs : List Char} (ascii : cs.all isAscii)
    (ended : Bool) {before : Option Char}
    (starts : before.any isWord = false ∨ cs.head?.any isWord = false) :
    markWords names mark ended before cs = mapWords (markWord names mark) cs := by
  rw [markWords_eq_mapWords (fun n mem => (plain n mem).isWordName) ended starts]
  refine mapWords_congr fun w mem => leaseWord_eq_markWord plain ?_
  exact List.all_eq_true.2 fun c memc => List.all_eq_true.1 ascii c (mem_of_mem_words mem memc)

end Marks

/-! ## Names with dollar signs -/

section Dollars
variable {names : List (List Char)} {cs : List Char}

/-- Only a dollar sign is one but for the case. -/
lemma eq_dollar_of_fold {c : Char} (h : foldChar c = foldChar '$') : c = '$' := by
  have sign : foldChar '$' = '$' := by decide
  rw [sign] at h
  rcases isAscii_or_of_fold (show isAscii (foldChar c) by rw [h]; decide) with ascii | rfl | rfl
  · exact isAscii_induction (fun c => foldChar c = '$' → c = '$') (by decide) ascii h
  · exact absurd h (by decide)
  · exact absurd h (by decide)

/-- A name with a dollar sign stands at no place of a text without one. -/
lemma afterFolded_dollar {n : List Char} (mem : '$' ∈ n) (none : '$' ∉ cs) :
    afterFolded? n cs = Option.none := by
  induction n generalizing cs with
  | nil => cases mem
  | cons w n ih =>
    cases cs with
    | nil => rfl
    | cons c cs =>
      rw [List.mem_cons, not_or] at none
      rw [afterFolded?]
      split
      · next same =>
        rcases List.mem_cons.1 mem with rfl | mem
        · exact absurd (eq_dollar_of_fold same).symm none.1
        · exact ih mem none.2
      · rfl

/-- Where no dollar sign is, names with one are not found. -/
lemma wordLength_dollar (before : Option Char) (none : '$' ∉ cs) :
    wordLength? (names.filter ('$' ∉ ·)) before cs = wordLength? names before cs := by
  rw [wordLength_eq, wordLength_eq, List.find?_filter]
  congr 3
  funext n
  by_cases mem : '$' ∈ n
  · simp [mem, stands, afterFolded_dollar mem none]
  · simp [mem]

/-- Such names are no matter to whether a word without dollar signs is one of the names. -/
lemma isNamed_dollar {w : List Char} (none : '$' ∉ w) :
    isNamed (names.filter ('$' ∉ ·)) w = isNamed names w := by
  rw [isNamed, isNamed, List.any_filter]
  congr 1
  funext n
  by_cases mem : '$' ∈ n
  · have other : n.map foldChar ≠ w.map foldChar := by
      intro folds
      have read := afterFolded_append folds.symm []
      rw [List.append_nil, afterFolded_dollar mem none] at read
      cases read
    simp [other]
  · simp [mem]

end Dollars

end Tenancy
