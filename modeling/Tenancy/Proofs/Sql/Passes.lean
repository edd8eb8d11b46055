import Tenancy.Proofs.Sql.Finding
import Tenancy.Proofs.Sql.Token

/-!
# The rules one after the other

The rules for legacy statements mark the parameters and then replace their patterns one after the other
(`translate_eq`). The marks come apart anywhere but in their middle (`withMarks_append`,
`split_of_withMarks`), and the other passes where none of their matches touches a stretch
(`replaceAll_append`). A word that is replaced wherever it stands is replaced in the list of words
(`substitute_findWord`), and no other pass puts a word together (`Edit.mem_words`).
-/

namespace Tenancy.Sql
open Text

/-- What the rules for legacy statements make of a stretch of code. -/
def translate (definition : Bool) (code : List Char) : List Char :=
  legacyRules.foldl (fun code rule => rule.apply definition code) code

/-- The patterns for clauses and types, in the order in which they are replaced. -/
def clausePatterns (definition : Bool) : List (Option Char → List Char → Option Match) :=
  findLimitPair :: findNoLimit :: if definition then [findWord "BLOB" "BYTEA"] else []

/-- The patterns that are replaced after the parameters are marked, in order. -/
def patterns (definition : Bool) : List (Option Char → List Char → Option Match) :=
  findNotRegexp :: findWord "REGEXP" "~" :: clausePatterns definition

/-- Code after patterns are replaced one after the other. -/
def replaceAll (finds : List (Option Char → List Char → Option Match)) (code : List Char) : List Char :=
  finds.foldl (fun code find => substitute find none code) code

/-- The rules mark the parameters first and then replace one pattern after the other. -/
lemma translate_eq (definition : Bool) (code : List Char) :
    translate definition code = replaceAll (patterns definition) (withMarks code) := by
  cases definition with
  | false => rfl
  | true => rfl

/-- The first pattern is replaced first. -/
lemma replaceAll_cons (find : Option Char → List Char → Option Match)
    (finds : List (Option Char → List Char → Option Match)) (code : List Char) :
    replaceAll (find :: finds) code = replaceAll finds (substitute find none code) := rfl

/-- What each pass leaves alone between what it makes of both sides stays through all of them. -/
lemma replaceAll_append {finds : List (Option Char → List Char → Option Match)} {s : List Char}
    (step : ∀ find ∈ finds, ∀ x y,
      substitute find none (x ++ (s ++ y)) = substitute find none x ++ (s ++ substitute find none y))
    (x y : List Char) : replaceAll finds (x ++ (s ++ y)) = replaceAll finds x ++ (s ++ replaceAll finds y) := by
  induction finds generalizing x y with
  | nil => rfl
  | cons find finds ih =>
    rw [replaceAll_cons, replaceAll_cons, replaceAll_cons, step find List.mem_cons_self]
    exact ih (fun other mem => step other (List.mem_cons_of_mem find mem)) _ _

/-! ## Marks of parameters -/

variable {cs ds : List Char}

/-- The empty text has no marks. -/
lemma withMarks_nil : withMarks [] = [] := by
  rw [withMarks, replaceText]
  rfl

/-- Two texts are marked each by itself. -/
lemma withMarks_append (cs ds : List Char) : withMarks (cs ++ ds) = withMarks cs ++ withMarks ds := by
  induction cs with
  | nil => rw [withMarks_nil]; rfl
  | cons c cs ih =>
    rw [List.cons_append, withMarks_cons, withMarks_cons, ih]
    split
    · rfl
    · rfl

/-- A text without question marks stays. -/
lemma withMarks_of_not_mem (none : '?' ∉ cs) : withMarks cs = cs := replaceText_eq_self _ none

/-- A text that does not end with a question mark ends the same. -/
lemma getLast_withMarks (other : cs.getLast? ≠ some '?') : (withMarks cs).getLast? = cs.getLast? := by
  obtain rfl | ⟨init, c, rfl⟩ := List.eq_nil_or_concat cs
  · rw [withMarks_nil]
  · have here : '?' ∉ [c] := by
      rw [List.mem_singleton]
      rintro rfl
      simp at other
    rw [List.concat_eq_append, withMarks_append, withMarks_of_not_mem here]
    simp

/-- The mark of a parameter ends in a letter. -/
lemma getLast_ne_of_withMarks (ends : (withMarks cs).getLast?.any isWord = false) : cs.getLast? ≠ some '?' := by
  intro last
  obtain ⟨init, rfl⟩ := List.getLast?_eq_some_iff.1 last
  rw [withMarks_append, withMarks_cons, if_pos rfl, withMarks_nil] at ends
  simp [show isWord 's' = true by decide] at ends

/-- Every other character is still there. -/
lemma mem_withMarks {c : Char} (mem : c ∈ cs) : c = '?' ∨ c ∈ withMarks cs := by
  obtain ⟨front, back, rfl⟩ := List.append_of_mem mem
  by_cases mark : c = '?'
  · exact .inl mark
  · rw [withMarks_append, withMarks_cons, if_neg mark]
    exact .inr (List.mem_append_right _ List.mem_cons_self)

/-- No word goes on at a marked text where none did. -/
lemma clear_withMarks (clear : Clear cs) : Clear (withMarks cs) := by
  rw [Clear, head_withMarks]
  split
  · decide
  · exact clear

/-- Nor did one where none does. -/
lemma clear_of_withMarks (clear : Clear (withMarks cs)) : Clear cs := by
  rw [Clear, head_withMarks] at clear
  split at clear
  · next mark =>
    rw [Clear, mark]
    decide
  · exact clear

/-- A marked text comes apart as the text does, but for the middle of a mark. -/
lemma split_of_withMarks {front back : List Char} (eq : withMarks cs = front ++ back)
    (whole : front.getLast? ≠ some '%' ∨ back.head? ≠ some 's') :
    ∃ front' back', cs = front' ++ back' ∧ withMarks front' = front ∧ withMarks back' = back := by
  induction cs generalizing front with
  | nil =>
    rw [withMarks_nil] at eq
    obtain ⟨rfl, rfl⟩ := List.append_eq_nil_iff.1 eq.symm
    exact ⟨[], [], rfl, withMarks_nil, withMarks_nil⟩
  | cons c cs ih =>
    cases front with
    | nil => exact ⟨[], c :: cs, rfl, withMarks_nil, eq⟩
    | cons d front =>
      have later {front : List Char} {e : Char}
          (last : (e :: front).getLast? ≠ some '%' ∨ back.head? ≠ some 's') :
          front.getLast? ≠ some '%' ∨ back.head? ≠ some 's' := by
        refine last.imp_left fun other => ?_
        cases front with
        | nil => exact nofun
        | cons f front => simpa using other
      rw [withMarks_cons] at eq
      split at eq
      · next mark =>
        subst mark
        obtain ⟨rfl, rest⟩ := List.cons.inj eq
        cases front with
        | nil =>
          obtain last | first := whole
          · exact absurd rfl last
          · have start : 's' :: withMarks cs = back := rest
            exact absurd (by rw [← start]; rfl) first
        | cons e front =>
          obtain ⟨rfl, tail⟩ := List.cons.inj rest
          obtain ⟨front', back', rfl, marked, marked'⟩ := ih tail (later (later whole))
          refine ⟨'?' :: front', back', rfl, ?_, marked'⟩
          rw [withMarks_cons, if_pos rfl, marked]
      · next other =>
        obtain ⟨rfl, rest⟩ := List.cons.inj eq
        obtain ⟨front', back', rfl, marked, marked'⟩ := ih rest (later whole)
        refine ⟨c :: front', back', rfl, ?_, marked'⟩
        rw [withMarks_cons, if_neg other, marked]

/-- What has no percent sign has no mark in it. -/
lemma eq_of_withMarks (eq : withMarks cs = ds) (none : '%' ∉ ds) : cs = ds := by
  rw [← eq]
  refine (withMarks_of_not_mem fun mem => ?_).symm
  obtain ⟨front, back, rfl⟩ := List.append_of_mem mem
  rw [withMarks_append, withMarks_cons, if_pos rfl] at eq
  exact none (eq ▸ List.mem_append_right _ List.mem_cons_self)

/-! ## Words that are replaced wherever they stand -/

/-- What stands in the place of a word. -/
def swapWord (word new : String) (w : List Char) : List Char := if isFolded w word then new.toList else w

/-- A text is a word but for the case if both fold to the same. -/
lemma isFolded_iff {w : List Char} {word : String} :
    isFolded w word ↔ w.map foldChar = word.toList.map foldChar := beq_iff_eq

/-- A word that is not the one looked for is left alone. -/
lemma spares_word {word new : String} {w rest : List Char} (chars : w.all isWord) (clear : Clear rest)
    (other : ¬ isFolded w word) : Spares (OneWord word new) [] w rest := by
  rintro lead old _ after eq ⟨starts, reads, ends, rfl⟩
  right
  rw [List.nil_append] at eq ⊢
  obtain ⟨more, rfl, -⟩ | ⟨more, rfl, eq'⟩ := List.append_eq_append_iff.1 eq
  · exact List.prefix_append w more
  · obtain rfl | ⟨init, c, rfl⟩ := List.eq_nil_or_concat lead
    · have same : old = more := eq_of_words reads.chars (by simpa using chars) clear ends eq'.symm
      rw [List.nil_append, ← same] at other
      exact absurd (isFolded_iff.2 reads.folds) other
    · have word : isWord c := List.all_eq_true.1 chars c (by simp)
      have gap : isWord c = false := by simpa [Clear] using starts
      rw [word] at gap
      cases gap

/-- Replacing a word wherever it stands is replacing it among the words. -/
theorem substitute_findWord {word new : String} (some : word.toList ≠ []) (chars : word.toList.all isWord)
    (code : List Char) : substitute (findWord word new) none code = mapWords (swapWord word new) code := by
  have all : FindsAll (findWord word new) (OneWord word new) := findsAll_findWord some chars
  induction code using wordwise with
  | nil =>
    rw [substitute_nil]
    rfl
  | gap c cs gap ih =>
    have spares : Spares (OneWord word new) [] [c] cs := by
      refine all.spares_of_not_mem (List.cons_ne_nil c []) ?_
      rintro before old _ after ⟨-, reads, -, -⟩ d mem
      rw [List.mem_singleton.1 mem]
      exact not_mem_of_all reads.chars gap
    have kept := all.substitute_spares (List.cons_ne_nil c []) spares (.inl rfl) (.inl gap)
    rw [substitute_nil, ih] at kept
    rw [mapWords_gap gap]
    exact kept
  | word w rest filled chars' ends ih =>
    rw [mapWords_word filled chars' ends, ← ih, swapWord]
    split
    · next same =>
      have place : OneWord word new [] w new.toList rest :=
        ⟨rfl, .of_folds some chars (isFolded_iff.1 same), ends, rfl⟩
      have later : substitute (findWord word new) w.reverse.head? rest = _ :=
        all.substitute_from (.inr ends)
      rw [List.head?_reverse] at later
      rw [← later]
      exact substitute_put filled (all.found place)
    · next other =>
      have kept := all.substitute_spares filled (spares_word chars' ends other) (.inl rfl) (.inr ends)
      rw [substitute_nil] at kept
      exact kept

/-- The words of a text with others in place of its words are the words of these. -/
theorem words_mapWords_flatMap (f : List Char → List Char) (code : List Char) :
    words (mapWords f code) = (words code).flatMap fun w => words (f w) := by
  induction code using wordwise with
  | nil => rfl
  | gap c cs gap ih => rw [mapWords_gap gap, words_gap gap, words_gap gap, ih]
  | word w rest filled chars ends ih =>
    rw [mapWords_word filled chars ends, words_append (.inr (head_mapWords ends)), ih,
      words_word filled chars ends, List.flatMap_cons]

/-- Where a word is replaced by what has no word in it, it is gone. -/
lemma not_isFolded_of_substitute {word new : String} (some : word.toList ≠ [])
    (chars : word.toList.all isWord) (gone : words new.toList = []) {code w : List Char}
    (mem : w ∈ words (substitute (findWord word new) none code)) : ¬ isFolded w word := by
  rw [substitute_findWord some chars, words_mapWords_flatMap, List.mem_flatMap] at mem
  obtain ⟨v, memv, mem⟩ := mem
  rw [swapWord] at mem
  split at mem
  · rw [gone] at mem
    cases mem
  · next other =>
    obtain ⟨filled, chars⟩ := isWord_of_mem_words memv
    rw [words_eq_singleton filled chars, List.mem_singleton] at mem
    rwa [mem]

/-! ## Words that are kept -/

section Edits
variable {P : Change} {before rest : List Char}

/-- Within a word nothing is put in that starts where no word goes on. -/
lemma Edit.keep_word {v : List Char} (e : Edit P rest before cs (v ++ ds))
    (clear : ∀ before old new after, P before old new after → Clear before) (inside : before.head?.any isWord)
    (chars : v.all isWord) : ∃ cs', cs = v ++ cs' ∧ Edit P rest (v.reverse ++ before) cs' ds := by
  induction v generalizing before cs with
  | nil => exact ⟨cs, rfl, e⟩
  | cons c v ih =>
    obtain ⟨head, tail⟩ := Bool.and_eq_true_iff.1 chars
    rw [List.cons_append] at e
    generalize whole : c :: (v ++ ds) = es at e
    cases e with
    | nil => cases whole
    | keep d e =>
      cases whole
      obtain ⟨cs', rfl, e'⟩ := ih e head tail
      exact ⟨cs', rfl, by simpa using e'⟩
    | put _ place _ =>
      rw [show before.head?.any isWord = false from clear _ _ _ _ place] at inside
      cases inside

/-- An edit that changes nothing inside of words does not begin there. -/
lemma Edit.clear_inside (e : Edit P rest before cs ds)
    (clear : ∀ before old new after, P before old new after → Clear before) (inside : before.head?.any isWord)
    (ends : Clear ds) : Clear cs := by
  cases e with
  | nil => exact ends
  | keep c _ => exact ends
  | put _ place _ =>
    rw [show before.head?.any isWord = false from clear _ _ _ _ place] at inside
    cases inside

/-- A word stands somewhere with a boundary at both ends. -/
lemma exists_of_mem_words {w : List Char} (mem : w ∈ words cs) :
    ∃ front back, cs = front ++ (w ++ back) ∧ front.getLast?.any isWord = false ∧ Clear back := by
  induction cs using wordwise with
  | nil => cases mem
  | gap c cs gap ih =>
    rw [words_gap gap] at mem
    obtain ⟨front, back, rfl, starts, ends⟩ := ih mem
    refine ⟨c :: front, back, rfl, ?_, ends⟩
    cases front with
    | nil => exact gap
    | cons d front => exact starts
  | word v rest filled chars ends' ih =>
    rw [words_word filled chars ends'] at mem
    obtain rfl | mem := List.mem_cons.1 mem
    · exact ⟨[], rest, rfl, rfl, ends'⟩
    · obtain ⟨front, back, rfl, starts, ends⟩ := ih mem
      refine ⟨v ++ front, back, by rw [List.append_assoc], ?_, ends⟩
      cases front with
      | nil =>
        -- The next word does not start where this one ends.
        obtain ⟨filled', chars'⟩ := isWord_of_mem_words mem
        obtain ⟨c, w, rfl⟩ := List.exists_cons_of_ne_nil filled'
        have word : isWord c := (Bool.and_eq_true_iff.1 chars').1
        rw [show isWord c = false from ends'] at word
        cases word
      | cons d front =>
        rw [List.getLast?_append_of_ne_nil _ (List.cons_ne_nil d front)]
        exact starts

/-- A word that starts with a character which is never put in was there before. -/
theorem Edit.mem_words {c : Char} {v : List Char} (e : Edit P [] [] cs ds)
    (clear : ∀ before old new after, P before old new after → Clear before)
    (flow : ∀ before old new after, P before old new after →
      new ≠ [] ∧ (after.head?.any isWord → new.getLast?.any isWord))
    (new_ne : ∀ before old new after, P before old new after → c ∉ new) (mem : c :: v ∈ words ds) :
    c :: v ∈ words cs := by
  obtain ⟨front, back, eq, starts, ends⟩ := exists_of_mem_words mem
  obtain ⟨word, chars⟩ := Bool.and_eq_true_iff.1 (isWord_of_mem_words mem).2
  obtain ⟨front', back', rfl, first, last⟩ := e.split new_ne eq
  obtain ⟨back'', rfl, last'⟩ := last.keep_word clear word chars
  have inside : (v.reverse ++ c :: (front'.reverse ++ [])).head?.any isWord := by
    obtain rfl | ⟨init, d, rfl⟩ := List.eq_nil_or_concat v
    · exact word
    · have last : isWord d := List.all_eq_true.1 chars d (by simp)
      simpa using last
  have starts' : front'.getLast?.any isWord = false := first.getLast_clear flow word starts
  rw [← List.cons_append]
  exact Text.mem_words starts' (List.cons_ne_nil c v) (isWord_of_mem_words mem).2
    (last'.clear_inside clear inside ends)

end Edits

end Tenancy.Sql
