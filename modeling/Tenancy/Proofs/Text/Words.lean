import Mathlib.Tactic.Lemma
import Tenancy.Text.Word

/-!
# Words of a text

A text is words with gaps between them: `words` lists the words, `mapWords` puts others in their place.
Both go by `wordwise`, the induction that takes a whole word at a time, and both come apart wherever a
text has a gap (`words_append`, `mapWords_append`). `words_mapWords` says that the words that are put in
are the words that are there afterwards.
-/

namespace Tenancy.Text

/-- The word that was gathered, last character first; none where nothing was gathered. -/
def finished : List Char → List (List Char)
  | [] => []
  | c :: w => [(c :: w).reverse]

/-- The words of a text after the beginning of a word, which is given last character first. -/
def wordsFrom (w : List Char) : List Char → List (List Char)
  | [] => finished w
  | c :: cs => if isWord c then wordsFrom (c :: w) cs else finished w ++ wordsFrom [] cs

/-- The words of a text, in order. -/
def words (cs : List Char) : List (List Char) := wordsFrom [] cs

/-- A text with others in place of its words, after the beginning of a word, which is given last
character first. -/
def mapWordsFrom (f : List Char → List Char) (w : List Char) : List Char → List Char
  | [] => (finished w).flatMap f
  | c :: cs =>
    if isWord c then mapWordsFrom f (c :: w) cs
    else (finished w).flatMap f ++ c :: mapWordsFrom f [] cs

/-- A text with others in place of its words. -/
def mapWords (f : List Char → List Char) (cs : List Char) : List Char := mapWordsFrom f [] cs

/-- What is left after the longest beginning of some characters does not go on with them. -/
lemma any_head_dropWhile (q : Char → Bool) (cs : List Char) : (cs.dropWhile q).head?.any q = false := by
  have stop := List.head?_dropWhile_not q cs
  cases first : (cs.dropWhile q).head? with
  | none => rfl
  | some c =>
    rw [first] at stop
    simpa using stop

/-- A text is empty, or starts with a gap, or starts with a whole word. -/
@[elab_as_elim]
theorem wordwise {motive : List Char → Prop} (nil : motive [])
    (gap : ∀ c cs, isWord c = false → motive cs → motive (c :: cs))
    (word : ∀ w rest, w ≠ [] → w.all isWord → rest.head?.any isWord = false → motive rest →
      motive (w ++ rest))
    (cs : List Char) : motive cs := by
  match cs with
  | [] => exact nil
  | c :: cs =>
    by_cases h : isWord c
    · have split : c :: cs = (c :: cs.takeWhile isWord) ++ cs.dropWhile isWord := by simp
      rw [split]
      exact word _ _ (by simp) (by simp [h]) (any_head_dropWhile isWord cs) (wordwise nil gap word _)
    · exact gap c cs (by simpa using h) (wordwise nil gap word cs)
termination_by cs.length
decreasing_by
  · have le := (List.dropWhile_sublist (l := cs) isWord).length_le
    simp only [List.length_cons]
    omega
  · simp

variable {f : List Char → List Char} {q : Char → Bool} {c : Char} {w cs rest : List Char}

/-- A word that was begun is one when it ends. -/
lemma finished_of_ne_nil (h : w ≠ []) : finished w = [w.reverse] := by
  cases w with
  | nil => exact absurd rfl h
  | cons c w => rfl

/-- The characters of a word are gathered one after the other. -/
lemma wordsFrom_append (h : cs.all isWord) (w rest : List Char) :
    wordsFrom w (cs ++ rest) = wordsFrom (cs.reverse ++ w) rest := by
  induction cs generalizing w with
  | nil => rfl
  | cons c cs ih =>
    obtain ⟨head, tail⟩ := Bool.and_eq_true_iff.1 h
    rw [List.cons_append, wordsFrom, if_pos head, ih tail]
    simp

/-- A word goes on through characters of words. -/
lemma mapWordsFrom_append (h : cs.all isWord) (w rest : List Char) :
    mapWordsFrom f w (cs ++ rest) = mapWordsFrom f (cs.reverse ++ w) rest := by
  induction cs generalizing w with
  | nil => rfl
  | cons c cs ih =>
    obtain ⟨head, tail⟩ := Bool.and_eq_true_iff.1 h
    rw [List.cons_append, mapWordsFrom, if_pos head, ih tail]
    simp

/-- It ends at any other character. -/
lemma wordsFrom_gap (h : isWord c = false) (w cs : List Char) :
    wordsFrom w (c :: cs) = finished w ++ words cs := by
  rw [wordsFrom, h]
  rfl

/-- There it is changed. -/
lemma mapWordsFrom_gap (h : isWord c = false) (w cs : List Char) :
    mapWordsFrom f w (c :: cs) = (finished w).flatMap f ++ c :: mapWords f cs := by
  rw [mapWordsFrom, h]
  rfl

/-- A character that is in no word adds no word. -/
lemma words_gap (h : isWord c = false) (cs : List Char) : words (c :: cs) = words cs :=
  wordsFrom_gap h [] cs

/-- Such a character stays. -/
lemma mapWords_gap (h : isWord c = false) (cs : List Char) :
    mapWords f (c :: cs) = c :: mapWords f cs := mapWordsFrom_gap h [] cs

/-- A word in front of a boundary is the first one. -/
lemma words_word (some : w ≠ []) (h : w.all isWord) (ends : rest.head?.any isWord = false) :
    words (w ++ rest) = w :: words rest := by
  have gathered : w.reverse ++ [] ≠ [] := by simpa using some
  rw [words, wordsFrom_append h]
  cases rest with
  | nil => rw [wordsFrom, finished_of_ne_nil gathered]; simp [words, wordsFrom, finished]
  | cons c rest =>
    have gap : isWord c = false := by simpa using ends
    rw [wordsFrom_gap gap, finished_of_ne_nil gathered, words_gap gap]
    simp

/-- It is changed by itself. -/
lemma mapWords_word (some : w ≠ []) (h : w.all isWord) (ends : rest.head?.any isWord = false) :
    mapWords f (w ++ rest) = f w ++ mapWords f rest := by
  have gathered : w.reverse ++ [] ≠ [] := by simpa using some
  rw [mapWords, mapWordsFrom_append h]
  cases rest with
  | nil => rw [mapWordsFrom, finished_of_ne_nil gathered]; simp [mapWords, mapWordsFrom, finished]
  | cons c rest =>
    have gap : isWord c = false := by simpa using ends
    rw [mapWordsFrom_gap gap, finished_of_ne_nil gathered, mapWords_gap gap]
    simp

/-- A text of characters of words is a single word. -/
lemma words_eq_singleton (some : w ≠ []) (h : w.all isWord) : words w = [w] := by
  have whole : words (w ++ []) = w :: words [] := words_word some h rfl
  rwa [List.append_nil] at whole

/-- A character that is in no word parts the words in front of it from those behind. -/
lemma wordsFrom_append_gap (h : isWord c = false) (w cs rest : List Char) :
    wordsFrom w (cs ++ c :: rest) = wordsFrom w cs ++ words rest := by
  induction cs generalizing w with
  | nil => exact wordsFrom_gap h w rest
  | cons d cs ih =>
    rw [List.cons_append, wordsFrom, wordsFrom]
    split
    · exact ih _
    · rw [ih, List.append_assoc]

/-- It parts the changes alike. -/
lemma mapWordsFrom_append_gap (h : isWord c = false) (w cs rest : List Char) :
    mapWordsFrom f w (cs ++ c :: rest) = mapWordsFrom f w cs ++ c :: mapWords f rest := by
  induction cs generalizing w with
  | nil => exact mapWordsFrom_gap h w rest
  | cons d cs ih =>
    rw [List.cons_append, mapWordsFrom, mapWordsFrom]
    split
    · exact ih _
    · rw [ih, List.append_assoc, List.cons_append]

/-- Whether no word goes on from one text to the next. -/
def Apart (cs ds : List Char) : Prop := cs.getLast?.any isWord = false ∨ ds.head?.any isWord = false

instance (cs ds : List Char) : Decidable (Apart cs ds) := inferInstanceAs (Decidable (_ ∨ _))

/-- Texts that are apart have a gap at the end of the one or at the head of the other. -/
lemma Apart.cases {cs ds : List Char} (h : Apart cs ds) :
    cs = [] ∨ ds = [] ∨ (∃ c before, cs = before ++ [c] ∧ isWord c = false) ∨
      ∃ c after, ds = c :: after ∧ isWord c = false := by
  rcases h with h | h
  · rcases List.eq_nil_or_concat cs with nil | ⟨before, c, rfl⟩
    · exact .inl nil
    · rw [List.concat_eq_append] at h ⊢
      exact .inr (.inr (.inl ⟨c, before, rfl, by simpa using h⟩))
  · cases ds with
    | nil => exact .inr (.inl rfl)
    | cons c after => exact .inr (.inr (.inr ⟨c, after, rfl, by simpa using h⟩))

/-- The words of two texts that are apart are those of the one and those of the other. -/
theorem words_append {cs ds : List Char} (h : Apart cs ds) :
    words (cs ++ ds) = words cs ++ words ds := by
  rcases h.cases with rfl | rfl | ⟨c, before, rfl, gap⟩ | ⟨c, after, rfl, gap⟩
  · rfl
  · simp [words, wordsFrom, finished]
  · have split (rest : List Char) : words (before ++ c :: rest) = words before ++ words rest :=
      wordsFrom_append_gap gap [] before rest
    rw [List.append_assoc, List.singleton_append, split, split]
    simp [words, wordsFrom, finished]
  · rw [words_gap gap]
    exact wordsFrom_append_gap gap [] cs after

/-- Two texts that no word joins are changed each by itself. -/
theorem mapWords_append {cs ds : List Char} (h : Apart cs ds) :
    mapWords f (cs ++ ds) = mapWords f cs ++ mapWords f ds := by
  rcases h.cases with rfl | rfl | ⟨c, before, rfl, gap⟩ | ⟨c, after, rfl, gap⟩
  · rfl
  · simp [mapWords, mapWordsFrom, finished]
  · have split (rest : List Char) :
        mapWords f (before ++ c :: rest) = mapWords f before ++ c :: mapWords f rest :=
      mapWordsFrom_append_gap gap [] before rest
    rw [List.append_assoc, List.singleton_append, split, split]
    simp [mapWords, mapWordsFrom, finished]
  · rw [mapWords_gap gap]
    exact mapWordsFrom_append_gap gap [] cs after

/-- A word with a boundary at both ends is one of the words. -/
lemma mem_words {before : List Char} (starts : before.getLast?.any isWord = false) (some : w ≠ [])
    (h : w.all isWord) (ends : rest.head?.any isWord = false) : w ∈ words (before ++ (w ++ rest)) := by
  rw [words_append (.inl starts), words_word some h ends]
  simp

/-- A word is not empty, and has characters of words alone. -/
lemma isWord_of_mem_words (h : w ∈ words cs) : w ≠ [] ∧ w.all isWord := by
  induction cs using wordwise with
  | nil => cases h
  | gap c cs gap ih =>
    rw [words_gap gap] at h
    exact ih h
  | word v rest some chars ends ih =>
    rw [words_word some chars ends] at h
    rcases List.mem_cons.1 h with rfl | h
    · exact ⟨some, chars⟩
    · exact ih h

/-- The characters of a word are characters of the text. -/
lemma mem_of_mem_words (h : w ∈ words cs) (hc : c ∈ w) : c ∈ cs := by
  induction cs using wordwise with
  | nil => cases h
  | gap d cs gap ih =>
    rw [words_gap gap] at h
    exact List.mem_cons_of_mem d (ih h)
  | word v rest some chars ends ih =>
    rw [words_word some chars ends] at h
    rcases List.mem_cons.1 h with rfl | h
    · exact List.mem_append_left rest hc
    · exact List.mem_append_right v (ih h)

/-- A text that starts with a gap still does when its words are changed. -/
lemma head_mapWords (h : cs.head?.any isWord = false) :
    (mapWords f cs).head?.any isWord = false := by
  cases cs with
  | nil => rfl
  | cons c cs =>
    have gap : isWord c = false := by simpa using h
    rw [mapWords_gap gap]
    exact h

/-- The words that are put in are the words that are there. -/
theorem words_mapWords (h : ∀ w ∈ words cs, f w ≠ [] ∧ (f w).all isWord) :
    words (mapWords f cs) = (words cs).map f := by
  induction cs using wordwise with
  | nil => rfl
  | gap c cs gap ih =>
    rw [words_gap gap] at h
    rw [mapWords_gap gap, words_gap gap, words_gap gap, ih h]
  | word v rest some chars ends ih =>
    rw [words_word some chars ends] at h
    obtain ⟨⟨some', chars'⟩, tail⟩ := List.forall_mem_cons.1 h
    rw [mapWords_word some chars ends, words_word some' chars' (head_mapWords ends),
      words_word some chars ends, List.map_cons, ih tail]

/-- What holds of the characters of a text, and of those of the words put in, holds of all. -/
lemma all_mapWords (h : ∀ w ∈ words cs, (f w).all q) (hc : cs.all q) : (mapWords f cs).all q := by
  induction cs using wordwise with
  | nil => rfl
  | gap c cs gap ih =>
    rw [words_gap gap] at h
    obtain ⟨head, tail⟩ := Bool.and_eq_true_iff.1 hc
    rw [mapWords_gap gap, List.all_cons, head, ih h tail]
    rfl
  | word v rest some chars ends ih =>
    rw [words_word some chars ends] at h
    obtain ⟨head, tail⟩ := List.forall_mem_cons.1 h
    rw [List.all_append, Bool.and_eq_true] at hc
    rw [mapWords_word some chars ends, List.all_append, head, ih tail hc.2]
    rfl

/-- What is put in depends on the words of the text alone. -/
lemma mapWords_congr {g : List Char → List Char} (h : ∀ w ∈ words cs, f w = g w) :
    mapWords f cs = mapWords g cs := by
  induction cs using wordwise with
  | nil => rfl
  | gap c cs gap ih =>
    rw [words_gap gap] at h
    rw [mapWords_gap gap, mapWords_gap gap, ih h]
  | word v rest some chars ends ih =>
    rw [words_word some chars ends] at h
    obtain ⟨head, tail⟩ := List.forall_mem_cons.1 h
    rw [mapWords_word some chars ends, mapWords_word some chars ends, head, ih tail]

/-- Where every word stays, the text stays. -/
theorem mapWords_eq_self (h : ∀ w ∈ words cs, f w = w) : mapWords f cs = cs := by
  induction cs using wordwise with
  | nil => rfl
  | gap c cs gap ih =>
    rw [words_gap gap] at h
    rw [mapWords_gap gap, ih h]
  | word v rest some chars ends ih =>
    rw [words_word some chars ends] at h
    obtain ⟨head, tail⟩ := List.forall_mem_cons.1 h
    rw [mapWords_word some chars ends, head, ih tail]

end Tenancy.Text
