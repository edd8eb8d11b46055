import Tenancy.Proofs.Sql.Lexeme
import Tenancy.Sql.Rule

/-!
# Gaps survive

No rule for legacy statements makes one word of several: where a statement has a blank, what the rules
make of it has a blank or a tilde. `Rule.KeepsGaps` says so of a rule, `keepsGaps_of_mem_legacyRules`
of each legacy rule, and `any_forServer` of a statement on its way to the server.
-/

namespace Tenancy.Text

/-- What is read without regard to case folds as what it is read as. -/
lemma afterFolded_eq_some {ws cs rest : List Char} (h : afterFolded? ws cs = some rest) :
    ∃ taken, cs = taken ++ rest ∧ taken.map foldChar = ws.map foldChar := by
  induction ws generalizing cs with
  | nil => exact ⟨[], by cases h; rfl, rfl⟩
  | cons w ws ih =>
    cases cs with
    | nil => cases h
    | cons c cs =>
      rw [afterFolded?] at h
      split at h
      · next eq =>
        obtain ⟨taken, rfl, folds⟩ := ih h
        exact ⟨c :: taken, rfl, by rw [List.map_cons, List.map_cons, eq, folds]⟩
      · cases h

/-- A character that is its own lower case stays in a text in lower case. -/
lemma mem_lower {c : Char} {cs : List Char} (stays : lowerChar c = [c]) (sigma : c ≠ 'Σ')
    (h : c ∈ cs) : c ∈ lower cs := by
  have key (before : List Char) : c ∈ lowerFrom before cs := by
    induction cs generalizing before with
    | nil => cases h
    | cons d cs ih =>
      rw [lowerFrom]
      rcases List.mem_cons.1 h with rfl | h
      · simp [sigma, stays]
      · split
        · exact List.mem_cons_of_mem _ (ih h _)
        · exact List.mem_append_right _ (ih h _)
  exact key []

end Tenancy.Text

namespace Tenancy.Sql
open Text

/-- A blank, or the operator that takes the place of a word and the blanks around it. -/
def isGap (c : Char) : Bool := c = ' ' || c = '~'

/-- A gap is a blank or a tilde. -/
lemma isGap_iff {c : Char} : isGap c = true ↔ c = ' ' ∨ c = '~' := by
  simp [isGap]

/-- Whether a rule leaves a gap in every code that has one. -/
def Rule.KeepsGaps (r : Rule) : Prop :=
  ∀ definition code, code.any isGap → (r.apply definition code).any isGap

variable {q : Char → Bool}

/-- What holds of a character somewhere still does if it does in each stretch of code. -/
lemma any_mapCode {f : List Char → List Char} (h : ∀ code, code.any q → (f code).any q)
    {sql : List Char} (hs : sql.any q) : (mapCode f sql).any q := by
  rw [← text_lexemes sql, text, List.any_flatMap, List.any_eq_true] at hs
  obtain ⟨l, mem, hl⟩ := hs
  rw [mapCode, List.any_flatMap, List.any_eq_true]
  refine ⟨l, mem, ?_⟩
  split
  · exact h _ hl
  · exact hl

/-- A substitution loses no character of a kind if a match that takes one puts one in its place. -/
lemma any_substitute {find : Option Char → List Char → Option Match}
    (h : ∀ before c cs m, find before (c :: cs) = some m →
      m.text.any q ∨ (c :: cs.take (m.length - 1)).any q = false)
    (before : Option Char) {cs : List Char} (hc : cs.any q) :
    (substitute find before cs).any q := by
  fun_induction substitute find before cs with
  | case1 => cases hc
  | case2 before c cs none ih =>
    rw [List.any_cons, Bool.or_eq_true] at hc ⊢
    exact hc.imp_right ih
  | case3 before c cs m found ih =>
    rw [List.any_append, Bool.or_eq_true]
    rcases h before c cs m found with new | old
    · exact .inl new
    · refine .inr (ih ?_)
      have split : c :: cs = c :: cs.take (m.length - 1) ++ cs.drop (m.length - 1) := by simp
      rw [split, List.any_append, old, Bool.false_or] at hc
      exact hc

/-- What is somewhere in a text stays when another character is replaced. -/
lemma any_replaceText {old : Char} (h : q old = false) (new : List Char) {cs : List Char}
    (hc : cs.any q) : (replaceText [old] new cs).any q := by
  induction cs with
  | nil => cases hc
  | cons c cs ih =>
    rw [replaceText]
    rw [List.any_cons, Bool.or_eq_true] at hc
    split
    · contradiction
    split
    · next eq =>
      obtain rfl : old = c := by simpa using eq
      rw [h] at hc
      have rest := ih (by simpa using hc)
      rw [List.any_append, Bool.or_eq_true]
      exact .inr rest
    · rw [List.any_cons, Bool.or_eq_true]
      exact hc.imp_right ih

/-- A word that is matched is replaced by the new text. -/
lemma text_findWord {word new : String} {before : Option Char} {cs : List Char} {m : Match}
    (h : findWord word new before cs = some m) :
    ∃ rest, afterFolded? word.toList cs = some rest ∧ m = Match.upTo cs rest new.toList := by
  simp only [findWord, afterWord?, Option.bind_eq_bind, Option.bind_eq_some_iff,
    Option.ite_none_right_eq_some, Option.some.injEq] at h
  obtain ⟨rest, ⟨-, found⟩, -, rfl⟩ := h
  exact ⟨rest, found, rfl⟩

/-- A match of a text that is not empty takes that text. -/
lemma removed_upTo {c : Char} {cs taken rest new : List Char} (h : c :: cs = taken ++ rest)
    (some : taken ≠ []) : c :: cs.take ((Match.upTo (c :: cs) rest new).length - 1) = taken := by
  cases taken with
  | nil => exact absurd rfl some
  | cons d ds =>
    obtain ⟨rfl, rfl⟩ : c = d ∧ cs = ds ++ rest := List.cons.inj h
    have len : (c :: (ds ++ rest)).length - rest.length - 1 = ds.length := by
      simp only [List.length_cons, List.length_append]
      omega
    show c :: (ds ++ rest).take ((c :: (ds ++ rest)).length - rest.length - 1) = c :: ds
    rw [len, List.take_left]

/-- The rule for parameters keeps gaps. -/
lemma keepsGaps_placeholderRule : placeholderRule.KeepsGaps :=
  fun _ _ h => any_replaceText (by decide) _ h

/-- So does the one for matches. -/
lemma keepsGaps_regexpRule : regexpRule.KeepsGaps := by
  intro definition code h
  refine any_substitute ?_ none (any_substitute ?_ none h)
  · intro before c cs m found
    obtain ⟨rest, -, rfl⟩ := text_findWord found
    exact .inl rfl
  · intro before c cs m found
    simp only [findNotRegexp, Option.bind_eq_bind, Option.bind_eq_some_iff,
      Option.ite_none_right_eq_some, Option.some.injEq] at found
    obtain ⟨gap, -, word, -, rest, -, -, rfl⟩ := found
    exact .inl rfl

/-- So does the one for pages. -/
lemma keepsGaps_paginationRule : paginationRule.KeepsGaps := by
  intro definition code h
  refine any_substitute ?_ none (any_substitute ?_ none h)
  · intro before c cs m found
    simp only [findNoLimit, Option.bind_eq_bind, Option.bind_eq_some_iff] at found
    obtain ⟨gap, -, blanks, -, found⟩ := found
    split at found
    · rw [Option.ite_none_right_eq_some, Option.some.injEq] at found
      obtain ⟨-, rfl⟩ := found
      exact .inl rfl
    · cases found
  · intro before c cs m found
    simp only [findLimitPair, Option.bind_eq_bind, Option.bind_eq_some_iff] at found
    obtain ⟨gap, -, blanks, -, skip, -, found⟩ := found
    split at found
    · simp only [Option.bind_eq_some_iff, Option.some.injEq] at found
      obtain ⟨take, -, rfl⟩ := found
      refine .inl ?_
      simp only [Match.upTo]
      split <;> simp [isGap]
    · cases found

/-- So does the one for types. -/
lemma keepsGaps_bytesRule : bytesRule.KeepsGaps := by
  intro definition code h
  cases definition with
  | false => exact h
  | true =>
    refine any_substitute ?_ none h
    intro before c cs m found
    obtain ⟨rest, read, rfl⟩ := text_findWord found
    obtain ⟨taken, eq, folds⟩ := afterFolded_eq_some read
    have some : taken ≠ [] := by
      rintro rfl
      cases folds
    refine .inr ?_
    rw [removed_upTo eq some, List.any_eq_false]
    intro d mem gap
    have folded : foldChar d ∈ "BLOB".toList.map foldChar := by
      rw [← folds]
      exact List.mem_map_of_mem mem
    rcases isGap_iff.1 gap with rfl | rfl
    · exact absurd folded (by decide)
    · exact absurd folded (by decide)

/-- So do all rules for legacy statements. -/
lemma keepsGaps_of_mem_legacyRules : ∀ r ∈ legacyRules, r.KeepsGaps := by
  intro r mem
  simp only [legacyRules, List.mem_cons, List.not_mem_nil, or_false] at mem
  rcases mem with rfl | rfl | rfl | rfl
  · exact keepsGaps_placeholderRule
  · exact keepsGaps_regexpRule
  · exact keepsGaps_paginationRule
  · exact keepsGaps_bytesRule

/-- A gap stays when code is numbered. -/
lemma any_numberCode (n : Nat) {cs : List Char} (h : cs.any isGap) :
    (numberCode n cs).1.any isGap := by
  fun_induction numberCode n cs with
  | case1 => cases h
  | case2 => exact h
  | case3 n c d cs eq out m run ih =>
    obtain ⟨rfl, rfl⟩ := eq
    have rest := ih (by simpa [isGap] using h)
    rw [run] at rest
    rw [List.cons_append, List.any_cons, List.any_append, rest, Bool.or_true, Bool.or_true]
  | case4 n c d cs _ eq out m run ih =>
    obtain ⟨rfl, rfl⟩ := eq
    have rest := ih (by simpa [isGap] using h)
    rw [run] at rest
    rw [List.any_cons, rest, Bool.or_true]
  | case5 n c d cs _ _ out m run ih =>
    rw [run] at ih
    rw [List.any_cons, Bool.or_eq_true] at h ⊢
    exact h.imp_right ih

/-- So it does when a statement is. -/
lemma any_numberLexemes (n : Nat) {ls : List Lexeme} (h : (text ls).any isGap) :
    (numberLexemes n ls).any isGap := by
  induction ls generalizing n with
  | nil => cases h
  | cons l ls ih =>
    have either : l.text.any isGap ∨ (text ls).any isGap := by
      rw [← Bool.or_eq_true, ← List.any_append]
      exact h
    rw [numberLexemes]
    split
    · rw [List.any_append, Bool.or_eq_true]
      exact either.imp (any_numberCode n) (ih _)
    · rw [List.any_append, Bool.or_eq_true]
      exact either.imp_right (ih n)

/-- Where a statement has a gap, what goes to the server has one too. -/
theorem any_forServer {rules : List Rule} (keeps : ∀ r ∈ rules, r.KeepsGaps) {sql : List Char}
    (h : sql.any isGap) : (forServer rules sql).any isGap := by
  have adapted : (adapt rules sql).any isGap := by
    rw [adapt]
    refine any_mapCode (fun code hc => ?_) h
    generalize isDefinition sql = definition
    clear h
    induction rules generalizing code with
    | nil => exact hc
    | cons r rules ih =>
      rw [List.foldl_cons]
      exact ih (fun s mem => keeps s (List.mem_cons_of_mem r mem)) _
        (keeps r List.mem_cons_self definition code hc)
  rw [forServer, numberParameters]
  exact any_numberLexemes 0 (by rwa [text_lexemes])

end Tenancy.Sql
