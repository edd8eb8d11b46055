import Tenancy.Proofs.Sql.Lexeme
import Tenancy.Proofs.Text.Ascii
import Tenancy.Sql.Rule

/-!
# The first word survives

A statement that starts with a word which is none of the words that rules look for still starts with
that word on its way to the server: `forServer_append`. Such a beginning is a `SafeHead`. What ends in
an underscore is safe too, so a tenant's prefix is.
-/

namespace Tenancy.Sql
open Text

/-- What holds of characters of names can be checked for each of them. -/
lemma isNameChar_induction (q : Char → Prop)
    (h : ∀ n < 128, isNameChar (Char.ofNat n) → q (Char.ofNat n)) {c : Char} (hc : isNameChar c) :
    q c := isAscii_induction (fun c => isNameChar c → q c) h (isAscii_of_isNameChar hc) hc

/-- Characters of words open nothing but code. -/
lemma isBare_of_isWord {c : Char} (h : isWord c) : isBare c = true := by
  have check : ['\x27', '"', '-', '/', '$'].all (!isWord ·) := by decide
  cases bare : isBare c with
  | true => rfl
  | false =>
    rw [isBare, Bool.not_eq_false'] at bare
    have none := List.all_eq_true.1 check c (List.contains_iff_mem.1 bare)
    rw [h] at none
    cases none

/-- A character of names opens nothing. -/
lemma isBare_of_isNameChar {c : Char} (h : isNameChar c) : isBare c = true :=
  isBare_of_isWord (isWord_of_isNameChar h)

/-- It is no blank. -/
lemma isBlank_of_isNameChar {c : Char} (h : isNameChar c) : isBlank c = false :=
  isNameChar_induction (isBlank · = false) (by decide) h

/-- No word ends between two of them. -/
lemma boundary_of_isNameChar {b c : Char} (hb : isNameChar b) (hc : isNameChar c) :
    boundary (some b) (some c) = false := by
  simp [boundary, isWord_of_isNameChar hb, isWord_of_isNameChar hc]

/-- Whether a text read at the start of `cs` without regard to case either differs from it or leaves
something of it. -/
def standsClear : List Char → List Char → Bool
  | [], cs => !cs.isEmpty
  | _ :: _, [] => false
  | w :: ws, c :: cs => foldChar c ≠ foldChar w || standsClear ws cs

/-- The words that rules for legacy statements look for. -/
def ruleWords : List String := ["NOT", "REGEXP", "LIMIT", "BLOB"]

/-- A beginning of a statement that rules leave alone: a word, or the start of one, that is none of
those they look for. -/
structure SafeHead (cs : List Char) : Prop where
  some : cs ≠ []
  name : cs.all isNameChar
  clear : ∀ w ∈ ruleWords, standsClear w.toList cs

/-- What is read at a place that stands clear of it leaves something. -/
lemma exists_of_standsClear {ws cs rest after : List Char} (h : standsClear ws cs)
    (read : afterFolded? ws (cs ++ rest) = some after) :
    ∃ taken left, cs = taken ++ left ∧ left ≠ [] ∧ taken.length = ws.length ∧
      after = left ++ rest := by
  induction ws generalizing cs with
  | nil =>
    cases read
    exact ⟨[], cs, rfl, by simpa [standsClear] using h, rfl, rfl⟩
  | cons w ws ih =>
    cases cs with
    | nil => cases h
    | cons c cs =>
      rw [List.cons_append, afterFolded?] at read
      split at read
      · next eq =>
        rw [standsClear, eq] at h
        obtain ⟨taken, left, rfl, some, len, rfl⟩ := ih (by simpa using h) read
        exact ⟨c :: taken, left, rfl, some, congrArg (· + 1) len, rfl⟩
      · cases read

/-- A text that ends in an underscore stands clear of every word that has none. -/
lemma standsClear_concat {ws : List Char} (h : ∀ w ∈ ws, foldChar '_' ≠ foldChar w)
    (cs : List Char) : standsClear ws (cs ++ ['_']) := by
  induction ws generalizing cs with
  | nil => simp [standsClear]
  | cons w ws ih =>
    have tail := ih fun v mem => h v (List.mem_cons_of_mem w mem)
    cases cs with
    | nil => simp [standsClear, h w List.mem_cons_self]
    | cons c cs => simp [standsClear, tail cs]

/-- A name with an underscore behind it is left alone. -/
lemma SafeHead.concat {cs : List Char} (h : cs.all isNameChar) : SafeHead (cs ++ ['_']) where
  some := by simp
  name := by simp [h]; decide
  clear w mem := by
    have check : ∀ w ∈ ruleWords, w.toList.all fun c => foldChar '_' ≠ foldChar c := by decide
    refine standsClear_concat (fun c memc => ?_) cs
    exact of_decide_eq_true (List.all_eq_true.1 (check w mem) c memc)

/-- The verbs with which statements about data start. -/
def verbs : List String := ["SELECT", "CREATE", "ALTER", "DROP", "INSERT", "UPDATE"]

/-- So is a verb. -/
lemma safeHead_of_mem_verbs {v : String} (mem : v ∈ verbs) : SafeHead v.toList where
  some := by
    revert v
    decide
  name := by
    revert v
    decide
  clear w memw := by
    have check : ∀ v ∈ verbs, ∀ w ∈ ruleWords, standsClear w.toList v.toList := by
      decide
    exact check v mem w memw

/-- Whether a statement starts with one of some words and a blank. -/
def StartsWith (words : List String) (sql : String) : Prop :=
  ∃ v ∈ words, v.toList ++ [' '] <+: sql.toList

/-- A statement starts with the same word whatever is put behind it. -/
lemma StartsWith.append {words : List String} {sql : String} (h : StartsWith words sql)
    (more : String) : StartsWith words (sql ++ more) := by
  obtain ⟨v, mem, start⟩ := h
  refine ⟨v, mem, start.trans ?_⟩
  rw [String.toList_append]
  exact List.prefix_append _ _

/-- It starts with one of more words. -/
lemma StartsWith.mono {words words' : List String} {sql : String} (h : StartsWith words sql)
    (sub : ∀ v ∈ words, v ∈ words') : StartsWith words' sql := by
  obtain ⟨v, mem, start⟩ := h
  exact ⟨v, sub v mem, start⟩

/-- Whether a statement starts with a verb. -/
abbrev StartsWithVerb : String → Prop := StartsWith verbs

/-- Whether a pattern starts with a word, and then goes on with blanks or at least ends the word. -/
def Heeds (find : Option Char → List Char → Option Match) (word : String) : Prop :=
  ∀ before cs,
    (∀ after, afterWord? word before cs = some after →
      afterBlanks? after = none ∧ endsWord cs after = false) →
    find before cs = none

/-- A word is found where it stands. -/
lemma heeds_findWord (word new : String) : Heeds (findWord word new) word := by
  intro before cs h
  rw [findWord, Option.bind_eq_bind, Option.bind_eq_none_iff]
  intro after read
  rw [(h after read).2]
  rfl

/-- A negated match is found where its first word stands. -/
lemma heeds_findNotRegexp : Heeds findNotRegexp "NOT" := by
  intro before cs h
  rw [findNotRegexp, Option.bind_eq_bind, Option.bind_eq_none_iff]
  intro after read
  rw [(h after read).1]
  rfl

/-- So is a pair of counts. -/
lemma heeds_findLimitPair : Heeds findLimitPair "LIMIT" := by
  intro before cs h
  rw [findLimitPair, Option.bind_eq_bind, Option.bind_eq_none_iff]
  intro after read
  rw [(h after read).1]
  rfl

/-- So is a bound that is none. -/
lemma heeds_findNoLimit : Heeds findNoLimit "LIMIT" := by
  intro before cs h
  rw [findNoLimit, Option.bind_eq_bind, Option.bind_eq_none_iff]
  intro after read
  rw [(h after read).1]
  rfl

/-- A pattern that starts with a word matches nowhere inside of a word. -/
lemma Heeds.inside {find : Option Char → List Char → Option Match} {word : String}
    (heeds : Heeds find word) {b c : Char} (hb : isNameChar b) (hc : isNameChar c)
    (cs : List Char) : find (some b) (c :: cs) = none := by
  refine heeds _ _ fun after read => ?_
  rw [afterWord?, List.head?_cons, boundary_of_isNameChar hb hc] at read
  cases read

/-- A substitution that comes from a word leaves the rest of that word alone. -/
lemma Heeds.substitute_word {find : Option Char → List Char → Option Match} {word : String}
    (heeds : Heeds find word) {b : Char} (hb : isNameChar b) {cs : List Char}
    (name : cs.all isNameChar) (rest : List Char) :
    ∃ rest', substitute find (some b) (cs ++ rest) = cs ++ rest' := by
  induction cs generalizing b with
  | nil => exact ⟨_, rfl⟩
  | cons c cs ih =>
    obtain ⟨hc, tail⟩ := Bool.and_eq_true_iff.1 name
    obtain ⟨rest', eq⟩ := ih hc tail
    refine ⟨rest', ?_⟩
    rw [List.cons_append, substitute, heeds.inside hb hc]
    exact congrArg (c :: ·) eq

/-- A pattern that starts with a word does not match a safe beginning. -/
lemma Heeds.safeHead {find : Option Char → List Char → Option Match} {word : String}
    (heeds : Heeds find word) (mem : word ∈ ruleWords) {cs : List Char} (safe : SafeHead cs)
    (rest : List Char) : find none (cs ++ rest) = none := by
  refine heeds _ _ fun after read => ?_
  have long : ∀ w ∈ ruleWords, w.toList.length ≠ 0 := by decide
  rw [afterWord?] at read
  split at read
  · obtain ⟨taken, left, rfl, some, len, rfl⟩ := exists_of_standsClear (safe.clear word mem) read
    obtain ⟨c, left, rfl⟩ := List.exists_cons_of_ne_nil some
    obtain ⟨first, last, rfl⟩ : ∃ first last, taken = first ++ [last] := by
      rcases List.eq_nil_or_concat taken with rfl | ⟨first, last, rfl⟩
      · exact absurd len.symm (long word mem)
      · exact ⟨first, last, by simp⟩
    have names := safe.name
    simp only [List.all_append, List.all_cons, Bool.and_eq_true] at names
    obtain ⟨⟨-, hlast, -⟩, hc, -⟩ := names
    constructor
    · simp [afterBlanks?, isBlank_of_isNameChar hc]
    · have place : ((first ++ [last] ++ c :: left) ++ rest)[
          ((first ++ [last] ++ c :: left) ++ rest).length - (c :: left ++ rest).length - 1]? =
          Option.some last := by
        have index : ((first ++ [last] ++ c :: left) ++ rest).length -
            (c :: left ++ rest).length - 1 = first.length := by
          simp only [List.length_append, List.length_cons, List.length_nil]
          omega
        rw [index]
        simp
      rw [endsWord, place]
      exact boundary_of_isNameChar hlast hc
  · cases read

/-- A substitution that looks for a word of the rules leaves a safe beginning alone. -/
lemma Heeds.substitute_head {find : Option Char → List Char → Option Match} {word : String}
    (heeds : Heeds find word) (mem : word ∈ ruleWords) {cs : List Char} (safe : SafeHead cs)
    (rest : List Char) : ∃ rest', substitute find none (cs ++ rest) = cs ++ rest' := by
  have here := heeds.safeHead mem safe rest
  obtain ⟨c, cs, rfl⟩ := List.exists_cons_of_ne_nil safe.some
  obtain ⟨hc, tail⟩ := Bool.and_eq_true_iff.1 safe.name
  obtain ⟨rest', eq⟩ := heeds.substitute_word hc tail rest
  refine ⟨rest', ?_⟩
  rw [List.cons_append] at here ⊢
  rw [substitute, here]
  exact congrArg (c :: ·) eq

/-- Parameter marks are replaced behind what holds none. -/
lemma replaceText_head {old : Char} (new : List Char) {cs : List Char} (h : old ∉ cs)
    (rest : List Char) : replaceText [old] new (cs ++ rest) = cs ++ replaceText [old] new rest := by
  induction cs with
  | nil => rfl
  | cons c cs ih =>
    simp only [List.mem_cons, not_or] at h
    obtain ⟨here, later⟩ := h
    rw [List.cons_append, replaceText, if_neg (by simp), if_neg (by simp [here]), ih later]
    rfl

/-- The rules for legacy statements leave a safe beginning of a stretch of code alone. -/
lemma apply_head {r : Rule} (mem : r ∈ legacyRules) (definition : Bool) {cs : List Char}
    (safe : SafeHead cs) (rest : List Char) :
    ∃ rest', r.apply definition (cs ++ rest) = cs ++ rest' := by
  simp only [legacyRules, List.mem_cons, List.not_mem_nil, or_false] at mem
  rcases mem with rfl | rfl | rfl | rfl
  · refine ⟨_, replaceText_head _ (fun mark => ?_) rest⟩
    exact absurd (List.all_eq_true.1 safe.name _ mark) (by decide)
  · obtain ⟨between, eq⟩ := heeds_findNotRegexp.substitute_head (by decide) safe rest
    obtain ⟨rest', eq'⟩ := (heeds_findWord "REGEXP" "~").substitute_head (by decide) safe between
    exact ⟨rest', (congrArg (substitute (findWord "REGEXP" "~") none) eq).trans eq'⟩
  · obtain ⟨between, eq⟩ := heeds_findLimitPair.substitute_head (by decide) safe rest
    obtain ⟨rest', eq'⟩ := heeds_findNoLimit.substitute_head (by decide) safe between
    exact ⟨rest', (congrArg (substitute findNoLimit none) eq).trans eq'⟩
  · cases definition with
    | false => exact ⟨rest, rfl⟩
    | true => exact (heeds_findWord "BLOB" "BYTEA").substitute_head (by decide) safe rest

/-- A function on code that leaves a beginning alone does so in a whole statement. -/
lemma mapCode_head {f : List Char → List Char} {cs : List Char} (some : cs ≠ [])
    (name : cs.all isNameChar) (keeps : ∀ rest, ∃ rest', f (cs ++ rest) = cs ++ rest')
    (rest : List Char) : ∃ rest', mapCode f (cs ++ rest) = cs ++ rest' := by
  have bare : cs.all isBare :=
    List.all_eq_true.2 fun c mem => isBare_of_isNameChar (List.all_eq_true.1 name c mem)
  obtain ⟨more, ls, eq⟩ := lexemes_append bare some rest
  obtain ⟨rest', eq'⟩ := keeps more
  rw [mapCode, eq, List.flatMap_cons, if_pos rfl, eq', List.append_assoc]
  exact ⟨_, rfl⟩

/-- Parameters are numbered behind what holds no percent sign. -/
lemma numberCode_head (n : Nat) {cs : List Char} (h : '%' ∉ cs) (rest : List Char) :
    numberCode n (cs ++ rest) = (cs ++ (numberCode n rest).1, (numberCode n rest).2) := by
  induction cs with
  | nil => rfl
  | cons c cs ih =>
    simp only [List.mem_cons, not_or] at h
    obtain ⟨here, later⟩ := h
    have step (ds : List Char) :
        numberCode n (c :: ds) = (c :: (numberCode n ds).1, (numberCode n ds).2) := by
      cases ds with
      | nil => rfl
      | cons d ds => rw [numberCode, if_neg (by simp [Ne.symm here]), if_neg (by simp [Ne.symm here])]
    rw [List.cons_append, step, ih later]
    rfl

/-- A list of rules for legacy statements leaves a safe beginning of a stretch of code alone. -/
lemma foldl_head {rules : List Rule} (legacy : ∀ r ∈ rules, r ∈ legacyRules) (definition : Bool)
    {cs : List Char} (safe : SafeHead cs) (rest : List Char) :
    ∃ rest', rules.foldl (fun code r => r.apply definition code) (cs ++ rest) = cs ++ rest' := by
  induction rules generalizing rest with
  | nil => exact ⟨rest, rfl⟩
  | cons r rules ih =>
    obtain ⟨between, eq⟩ := apply_head (legacy r List.mem_cons_self) definition safe rest
    rw [List.foldl_cons, eq]
    exact ih (fun s mem => legacy s (List.mem_cons_of_mem r mem)) between

/-- A statement keeps its safe beginning on the way to the server. -/
theorem forServer_append {rules : List Rule} (legacy : ∀ r ∈ rules, r ∈ legacyRules)
    {cs : List Char} (safe : SafeHead cs) (rest : List Char) :
    ∃ rest', forServer rules (cs ++ rest) = cs ++ rest' := by
  have bare : cs.all isBare :=
    List.all_eq_true.2 fun c mem => isBare_of_isNameChar (List.all_eq_true.1 safe.name c mem)
  have percent : '%' ∉ cs := fun mem =>
    absurd (List.all_eq_true.1 safe.name _ mem) (by decide)
  obtain ⟨between, eq⟩ : ∃ between, adapt rules (cs ++ rest) = cs ++ between := by
    rw [adapt]
    exact mapCode_head safe.some safe.name (foldl_head legacy _ safe) rest
  obtain ⟨more, ls, eq'⟩ := lexemes_append bare safe.some between
  rw [forServer, eq, numberParameters, eq', numberLexemes, if_pos rfl, numberCode_head 0 percent]
  exact ⟨_, List.append_assoc ..⟩

end Tenancy.Sql
