import Tenancy.Proofs.Sql.Head
import Tenancy.Proofs.Sql.Marking
import Tenancy.Proofs.Sql.Pattern

/-!
# Ordinary code

The rules for legacy statements look for parameters and for a few words. Code that has none of them is
`Ordinary`, and `apply_ordinary` says that rules leave it as it is. A statement goes to the server
unchanged if all of its code is ordinary and holds no parameters: `forServer_eq_self`.
-/

namespace Tenancy.Sql
open Text

/-- The words without which rules leave code alone, in lower case. -/
def soughtWords : List (List Char) := ["regexp".toList, "limit".toList, "blob".toList]

/-- Code in which rules find nothing. -/
structure Ordinary (code : List Char) : Prop where
  ascii : code.all isAscii
  mark : '?' ∉ code
  clear : ∀ w ∈ words code, w.map Char.toLower ∉ soughtWords

/-- Where nothing is found nothing is replaced. -/
lemma substitute_eq_self {find : Option Char → List Char → Option Match} {before : Option Char}
    {cs : List Char}
    (h : ∀ front c rest, cs = front ++ c :: rest →
      find (front.getLast?.or before) (c :: rest) = none) :
    substitute find before cs = cs := by
  induction cs generalizing before with
  | nil => rw [substitute]
  | cons c cs ih =>
    have here := h [] c cs rfl
    rw [List.getLast?_nil, Option.none_or] at here
    rw [substitute, here]
    refine congrArg (c :: ·) (ih fun front d rest eq => ?_)
    have later := h (c :: front) d rest (congrArg (c :: ·) eq)
    rw [List.getLast?_cons] at later
    cases last : front.getLast? with
    | none => simpa [last] using later
    | some b => simpa [last] using later

/-- Whether a pattern is found only where the text has a word of `soughtWords`. -/
def Seeks (find : Option Char → List Char → Option Match) : Prop :=
  ∀ front cs m, (front ++ cs).all isAscii → find front.getLast? cs = some m →
    ∃ w ∈ words (front ++ cs), w.map Char.toLower ∈ soughtWords

/-- A pattern that seeks a word replaces nothing in ordinary code. -/
lemma Seeks.substitute_eq_self {find : Option Char → List Char → Option Match} (seeks : Seeks find)
    {code : List Char} (h : Ordinary code) : substitute find none code = code := by
  refine Sql.substitute_eq_self fun front c rest eq => ?_
  rw [Option.or_none]
  cases found : find front.getLast? (c :: rest) with
  | none => rfl
  | some m =>
    obtain ⟨w, mem, sought⟩ := seeks front (c :: rest) m (eq ▸ h.ascii) found
    rw [← eq] at mem
    exact absurd sought (h.clear w mem)

/-- A change of what holds a sought word by itself comes from a pattern that seeks it. -/
lemma Seeks.of_finds {find : Option Char → List Char → Option Match} {P : Change}
    (finds : Finds find P) (word : String) (name : word.toList.all isAscii)
    (sought : word.toList.map Char.toLower ∈ soughtWords)
    (h : ∀ before old new after, P before old new after → ∃ lead w tail,
      old = lead ++ (w ++ tail) ∧ (lead.reverse ++ before).head?.any isWord = false ∧ Reads word w ∧
        Clear (tail ++ after)) :
    Seeks find := by
  intro front cs m ascii found
  rw [← List.head?_reverse] at found
  obtain ⟨old, after, rfl, -, -, place⟩ := finds front.reverse cs m found
  obtain ⟨lead, w, tail, rfl, starts, reads, ends⟩ := h _ _ _ _ place
  have whole : front ++ (lead ++ (w ++ tail) ++ after) = front ++ lead ++ (w ++ (tail ++ after)) := by
    simp only [List.append_assoc]
  have asciiw : w.all isAscii := by
    simp only [List.all_append, Bool.and_eq_true] at ascii
    exact ascii.2.1.2.1
  rw [whole]
  refine ⟨w, mem_words ?_ reads.ne_nil reads.chars ends, ?_⟩
  · rwa [← List.head?_reverse, List.reverse_append]
  · rw [← map_foldChar asciiw, reads.folds, map_foldChar name]
    exact sought

/-- A word of the rules seeks itself. -/
lemma seeks_findWord (word new : String) (some : word.toList ≠ [])
    (name : word.toList.all isNameChar) (sought : word.toList.map Char.toLower ∈ soughtWords) :
    Seeks (findWord word new) := by
  have chars : word.toList.all isWord := all_of_imp (fun _ => isWord_of_isNameChar) name
  refine .of_finds (finds_findWord some chars) word
    (all_of_imp (fun _ => isAscii_of_isNameChar) name) sought ?_
  rintro before old new after ⟨starts, reads, ends, -⟩
  exact ⟨[], old, [], by simp, starts, reads, ends⟩

/-- A negated match seeks its words. -/
lemma seeks_findNotRegexp : Seeks findNotRegexp := by
  refine .of_finds finds_findNotRegexp "REGEXP" (by decide) (by decide) ?_
  rintro before old new after ⟨no, gap, word, -, -, isGap, reads, ends, rfl, -⟩
  refine ⟨no ++ gap, word, [], by simp, ?_, reads, ends⟩
  have last := isGap.clear.2
  obtain ⟨init, c, rfl⟩ := (List.eq_nil_or_concat gap).resolve_left isGap.1
  simpa using last

/-- A pair of counts seeks its word. -/
lemma seeks_findLimitPair : Seeks findLimitPair := by
  refine .of_finds finds_findLimitPair "LIMIT" (by decide) (by decide) ?_
  rintro before old new after ⟨skip, take, starts, ⟨word, gap, blanks, blanks', reads, isGap, -, -, -, -,
    rfl⟩, -⟩
  refine ⟨[], word, _, rfl, starts, reads, ?_⟩
  rw [List.append_assoc]
  exact isGap.clear_append _

/-- So does a bound that is none. -/
lemma seeks_findNoLimit : Seeks findNoLimit := by
  refine .of_finds finds_findNoLimit "LIMIT" (by decide) (by decide) ?_
  rintro before old new after ⟨word, gap, starts, reads, isGap, -, rfl, -⟩
  refine ⟨[], word, _, rfl, starts, reads, ?_⟩
  rw [List.append_assoc]
  exact isGap.clear_append _

/-- Where there is no parameter mark, none is replaced. -/
lemma replaceText_eq_self {old : Char} (new : List Char) {cs : List Char} (h : old ∉ cs) :
    replaceText [old] new cs = cs := by
  have all := replaceText_head new h []
  rwa [List.append_nil, replaceText, if_neg (by simp), List.append_nil] at all

/-- The rules for legacy statements leave ordinary code alone. -/
theorem apply_ordinary {r : Rule} (mem : r ∈ legacyRules) (definition : Bool) {code : List Char}
    (h : Ordinary code) : r.apply definition code = code := by
  simp only [legacyRules, List.mem_cons, List.not_mem_nil, or_false] at mem
  rcases mem with rfl | rfl | rfl | rfl
  · exact replaceText_eq_self _ h.mark
  · have first := seeks_findNotRegexp.substitute_eq_self h
    have second := (seeks_findWord "REGEXP" "~" (by decide) (by decide)
      (by decide)).substitute_eq_self h
    exact (congrArg _ first).trans second
  · exact (congrArg _ (seeks_findLimitPair.substitute_eq_self h)).trans
      (seeks_findNoLimit.substitute_eq_self h)
  · cases definition with
    | false => rfl
    | true =>
      exact (seeks_findWord "BLOB" "BYTEA" (by decide) (by decide)
        (by decide)).substitute_eq_self h

/-- Rules for legacy statements leave ordinary code alone. -/
lemma foldl_ordinary {rules : List Rule} (legacy : ∀ r ∈ rules, r ∈ legacyRules)
    (definition : Bool) {code : List Char} (h : Ordinary code) :
    rules.foldl (fun code r => r.apply definition code) code = code := by
  induction rules with
  | nil => rfl
  | cons r rules ih =>
    rw [List.foldl_cons, apply_ordinary (legacy r List.mem_cons_self) definition h]
    exact ih fun s mem => legacy s (List.mem_cons_of_mem r mem)

/-- What is made of a statement depends on what is made of each stretch of its code. -/
lemma mapCode_congr {f g : List Char → List Char} {sql : List Char}
    (h : ∀ l ∈ lexemes sql, l.kind = .code → f l.text = g l.text) : mapCode f sql = mapCode g sql := by
  have same : ∀ l ∈ lexemes sql, (if l.kind = .code then f l.text else l.text) =
      if l.kind = .code then g l.text else l.text := by
    intro l mem
    split
    · next code => exact h l mem code
    · rfl
  rw [mapCode, mapCode, List.flatMap_def, List.map_congr_left same, ← List.flatMap_def]

/-- A function that leaves each stretch of code alone leaves the statement alone. -/
lemma mapCode_eq_self {f : List Char → List Char} {sql : List Char}
    (h : ∀ l ∈ lexemes sql, l.kind = .code → f l.text = l.text) : mapCode f sql = sql := by
  rw [mapCode_congr (g := id) h, mapCode]
  simp only [id_eq, ite_self]
  exact text_lexemes sql

/-- Code without a percent sign has no parameters to be numbered. -/
lemma numberLexemes_eq_text (n : Nat) {ls : List Lexeme}
    (h : ∀ l ∈ ls, l.kind = .code → '%' ∉ l.text) : numberLexemes n ls = text ls := by
  induction ls with
  | nil => rfl
  | cons l ls ih =>
    obtain ⟨head, tail⟩ := List.forall_mem_cons.1 h
    rw [numberLexemes]
    split
    · next code =>
      have all := numberCode_head n (head code) []
      rw [List.append_nil, numberCode, List.append_nil] at all
      rw [all]
      exact congrArg (l.text ++ ·) (ih tail)
    · exact congrArg (l.text ++ ·) (ih tail)

/-- Parameters are numbered in front of what holds none. -/
lemma numberCode_append (n : Nat) {cs ds : List Char} (whole : cs.getLast? ≠ some '%')
    (h : '%' ∉ ds) : (numberCode n (cs ++ ds)).1 = (numberCode n cs).1 ++ ds := by
  have rest (n : Nat) : numberCode n ds = (ds, n) := by
    have all := numberCode_head n h []
    rwa [List.append_nil, numberCode, List.append_nil] at all
  fun_induction numberCode n cs with
  | case1 n => rw [List.nil_append, rest]
  | case2 n c =>
    have other : c ≠ '%' := by simpa using whole
    have none : '%' ∉ [c] := by simpa using Ne.symm other
    have head := numberCode_head n none ds
    rw [head, rest]
  | case3 n c d cs eq out m run ih =>
    have later := ih (by cases cs <;> simp_all)
    rw [run] at later
    rw [List.cons_append, List.cons_append, numberCode, if_pos eq]
    rcases after : numberCode (n + 1) (cs ++ ds) with ⟨out', m'⟩
    rw [after] at later
    dsimp only at later ⊢
    rw [later, List.append_assoc]
  | case4 n c d cs _ eq out m run ih =>
    have later := ih (by cases cs <;> simp_all)
    rw [run] at later
    rw [List.cons_append, List.cons_append, numberCode, if_neg ‹_›, if_pos eq]
    rcases after : numberCode n (cs ++ ds) with ⟨out', m'⟩
    rw [after] at later
    dsimp only at later ⊢
    rw [later, List.cons_append]
  | case5 n c d cs _ _ out m run ih =>
    have later := ih (by simpa using whole)
    rw [run] at later
    rw [List.cons_append, List.cons_append, numberCode, if_neg ‹_›, if_neg ‹_›, ← List.cons_append]
    rcases after : numberCode n (d :: cs ++ ds) with ⟨out', m'⟩
    rw [after] at later
    dsimp only at later ⊢
    rw [later, List.cons_append]

/-- A statement whose code is ordinary, without parameters, goes to the server as it is. -/
theorem forServer_eq_self {rules : List Rule} (legacy : ∀ r ∈ rules, r ∈ legacyRules)
    {sql : List Char}
    (h : ∀ l ∈ lexemes sql, l.kind = .code → Ordinary l.text ∧ '%' ∉ l.text) :
    forServer rules sql = sql := by
  have adapted : adapt rules sql = sql := by
    rw [adapt]
    exact mapCode_eq_self fun l mem code => foldl_ordinary legacy _ (h l mem code).1
  rw [forServer, adapted, numberParameters, numberLexemes_eq_text 0 fun l mem code => (h l mem code).2,
    text_lexemes]

end Tenancy.Sql
