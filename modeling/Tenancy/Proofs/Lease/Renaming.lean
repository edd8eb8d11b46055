import Tenancy.Proofs.Connection.Adapt
import Tenancy.Proofs.Sql.Mild

/-!
# A lease renames whole words and nothing else

Under a lease the words of code that name tables of tenants get the prefix, in whatever case they stand,
and nothing else changes: the statement is cut into the same lexemes, what is quoted is the same, and the
lease has no more to do with what it made (`Lease.renames_standard`). This holds of names that are `Tame`;
those of every database are.
-/

namespace Tenancy
open Text Sql

/-! ## Letters that name tables -/

/-- A character that can stand where a name has one: a character of names or the long s, which folds like
the short one. -/
def isSpelled (c : Char) : Bool := isNameChar c || c = 'ſ'

/-- What is so of the characters of names and of the long s is so of all that names are spelled with. -/
lemma isSpelled_induction (q : Char → Prop) (h : ∀ n < 128, isNameChar (Char.ofNat n) → q (Char.ofNat n))
    (long : q 'ſ') {c : Char} (hc : isSpelled c) : q c := by
  rw [isSpelled, Bool.or_eq_true, decide_eq_true_eq] at hc
  rcases hc with name | rfl
  · exact isNameChar_induction q h name
  · exact long

/-- Lower case takes a letter that can stand in a name to one that folds and is read alike. -/
lemma lower_isSpelled {c : Char} (h : isSpelled c) :
    (lowerChar c = [c.toLower] ∧ c ≠ 'Σ') ∧ foldChar c.toLower = foldChar c ∧
      (isBare c.toLower ∧ isWord c.toLower) ∧ isNameChar c.toLower = isNameChar c ∧
        (c.toLower = 'E' || c.toLower = 'e' : Bool) = (c = 'E' || c = 'e' : Bool) := by
  refine isSpelled_induction (fun c => (lowerChar c = [c.toLower] ∧ c ≠ 'Σ') ∧
    foldChar c.toLower = foldChar c ∧ (isBare c.toLower ∧ isWord c.toLower) ∧
      isNameChar c.toLower = isNameChar c ∧
        (c.toLower = 'E' || c.toLower = 'e' : Bool) = (c = 'E' || c = 'e' : Bool)) ?_ ?_ h
  · decide
  · decide

/-- Such a text has the lower case of its letters of ASCII. -/
lemma lower_of_isSpelled {cs : List Char} (h : cs.all isSpelled) :
    lower cs = cs.map Char.toLower :=
  lower_eq_map fun _ mem => (lower_isSpelled (List.all_eq_true.1 h _ mem)).1

/-! ## Names -/

/-- Whether a name can be told from what a prefix makes of another, and its letters from those of other
scripts but the long s. -/
structure TameName (n : List Char) : Prop where
  plain : IsPlainName n
  kelvin : 'k' ∉ n
  long : 2 ≤ n.length
  start : n.head?.any Char.isDigit = false

/-- Whether names are such that a prefix makes none of them of another. -/
structure Tame (names : List (List Char)) : Prop where
  name : ∀ n ∈ names, TameName n
  apart : ∀ n ∈ names, ∀ m ∈ names, ¬ '_' :: m <:+ n

/-- A tame name folds to itself. -/
lemma TameName.map_foldChar_eq {n : List Char} (h : TameName n) : n.map foldChar = n := by
  rw [map_foldChar (all_of_imp (fun _ => isAscii_of_isNameChar) h.plain.2.1), h.plain.2.2]

/-- What folds like a name is spelled in letters that can stand in one. -/
lemma TameName.all_isSpelled {n w : List Char} (h : TameName n) (folds : n.map foldChar = w.map foldChar) :
    w.all isSpelled := by
  refine List.all_eq_true.2 fun c mem => ?_
  have among : foldChar c ∈ n.map foldChar := folds ▸ List.mem_map_of_mem mem
  obtain ⟨d, memd, eq⟩ := List.mem_map.1 among
  rw [isSpelled, Bool.or_eq_true, decide_eq_true_eq]
  rcases isNameChar_or_of_fold (List.all_eq_true.1 h.plain.2.1 d memd) eq.symm with name | long | rfl
  · exact .inl name
  · exact .inr long
  · -- The sign for kelvin would need the letter.
    rw [h.map_foldChar_eq] at among
    exact absurd among h.kelvin

variable {names : List (List Char)} {mark w : List Char}

/-- The words that are renamed are spelled in such letters, start with no digit and are not too short. -/
lemma Tame.of_isNamed (tame : Tame names) (named : isNamed names w) :
    w.all isSpelled ∧ 2 ≤ w.length ∧ w.head?.any Char.isDigit = false := by
  obtain ⟨n, mem, folds⟩ := isNamed_iff.1 named
  have name := tame.name n mem
  have len : n.length = w.length := by simpa using congrArg List.length folds
  refine ⟨name.all_isSpelled folds, len ▸ name.long, ?_⟩
  have start := name.start
  rw [name.map_foldChar_eq] at folds
  cases w with
  | nil => rfl
  | cons c w =>
    rw [folds] at start
    rw [Bool.eq_false_iff]
    intro digit
    have same : foldChar c = c := by
      have name : isNameChar c := by simp [isNameChar, Char.isAlphanum, (show c.isDigit from digit)]
      have ascii : isAscii c := isAscii_of_isNameChar name
      exact isAscii_induction (fun c => c.isDigit → foldChar c = c) (by decide) ascii digit
    rw [List.map_cons, List.head?_cons, same] at start
    exact absurd digit (by simpa using start)

/-- What a lease makes of a word is none of the names. -/
lemma Tame.not_isNamed (tame : Tame names) (some : mark.getLast? = Option.some '_')
    (named : isNamed names w) : isNamed names (mark ++ lower w) = false := by
  obtain ⟨init, rfl⟩ := List.getLast?_eq_some_iff.1 some
  rw [Bool.eq_false_iff]
  intro again
  obtain ⟨n, mem, folds⟩ := isNamed_iff.1 again
  obtain ⟨m, mem', folds'⟩ := isNamed_iff.1 named
  have spelled := (tame.of_isNamed named).1
  have lowered : (lower w).map foldChar = w.map foldChar := by
    rw [lower_of_isSpelled spelled, List.map_map]
    exact List.map_congr_left fun c memc => (lower_isSpelled (List.all_eq_true.1 spelled c memc)).2.1
  have line : foldChar '_' = '_' := by decide
  rw [(tame.name n mem).map_foldChar_eq, List.map_append, List.map_append, lowered, ← folds',
    (tame.name m mem').map_foldChar_eq, List.append_assoc] at folds
  refine tame.apart n mem m mem' ⟨init.map foldChar, ?_⟩
  rw [folds, List.map_cons, line]
  rfl

/-! ## Renaming as an edit -/

/-- A whole word is changed. -/
def Renames (f : List Char → List Char) : Change := fun before old new after =>
  before.head?.any isWord = false ∧ after.head?.any isWord = false ∧ old.all isWord ∧ new = f old ∧
    f old ≠ old

/-- To change each word is an edit. -/
lemma edit_mapWords (f : List Char → List Char) {before : List Char} (cs : List Char)
    (starts : before.head?.any isWord = false ∨ cs.head?.any isWord = false) :
    Edit (Renames f) [] before cs (mapWords f cs) := by
  induction cs using wordwise generalizing before with
  | nil => exact .nil
  | gap c cs gap ih =>
    rw [mapWords_gap gap]
    exact .keep c (ih (.inl (by simpa using gap)))
  | word w rest some chars ends ih =>
    rw [mapWords_word some chars ends]
    by_cases same : f w = w
    · rw [same]
      exact .append w (ih (.inr ends))
    · have outside : before.head?.any isWord = false := by
        rcases starts with outside | head
        · exact outside
        · obtain ⟨c, w, rfl⟩ := List.exists_cons_of_ne_nil some
          have first : isWord c = true := (Bool.and_eq_true_iff.1 chars).1
          rw [List.cons_append, List.head?_cons, Option.any_some, first] at head
          cases head
      refine .put some ⟨outside, ?_, chars, rfl, same⟩ (ih (.inr ends))
      rwa [List.append_nil]

/-- A word that a lease changes is one of the names. -/
lemma isNamed_of_ne (h : leaseWord names mark w ≠ w) :
    isNamed names w = true ∧ leaseWord names mark w = mark ++ lower w := by
  rw [leaseWord] at h ⊢
  split at h
  · next named => exact ⟨named, if_pos named⟩
  · exact absurd rfl h

section Prefix
variable (p : TablePrefix)

/-- A prefix is not empty. -/
lemma TablePrefix.ne_nil : p.text.toList ≠ [] := by
  intro nil
  have last := p.sanitized.1
  rw [nil] at last
  cases last

/-- It has characters of names alone. -/
lemma TablePrefix.all_isNameChar : p.text.toList.all isNameChar :=
  all_of_imp (fun _ => isNameChar_of_isPrefixChar) p.sanitized.2.2.2

/-- What a lease puts in the place of a name is no matter to what follows. -/
lemma Tame.mild (tame : Tame names) (named : isNamed names w) (after : List Char) :
    Mild w (p.text.toList ++ lower w) after := by
  obtain ⟨spelled, long, -⟩ := tame.of_isNamed named
  have letter := List.all_eq_true.1 spelled
  obtain ⟨c, front, eq⟩ := List.exists_cons_of_ne_nil p.ne_nil
  have name := p.all_isNameChar
  rw [eq] at name
  have first : isNameChar c := (Bool.and_eq_true_iff.1 name).1
  -- The last two characters are those of the word in lower case.
  obtain ⟨init, d, e, rfl⟩ : ∃ init d e, w = init ++ [d, e] := by
    rcases List.eq_nil_or_concat w with rfl | ⟨init, e, rfl⟩
    · cases long
    · rcases List.eq_nil_or_concat init with rfl | ⟨init, d, rfl⟩
      · simp at long
      · exact ⟨init, d, e, by simp⟩
  have lastd := lower_isSpelled (letter d (by simp))
  have laste := lower_isSpelled (letter e (by simp))
  rw [lower_of_isSpelled spelled]
  refine ⟨by simp [eq], ?_, ?_, ?_, fun _ => ?_, fun _ b b' => ?_⟩
  · refine isPlain_of_isBare ?_
    rw [List.all_append, all_of_imp (fun _ => isBare_of_isNameChar) p.all_isNameChar, Bool.true_and,
      List.all_map]
    exact List.all_eq_true.2 fun c mem => (lower_isSpelled (letter c mem)).2.2.1.1
  · rw [eq]
    rintro ⟨⟩
    cases first
  · intro line
    have newline := letter '\n' (List.mem_of_head? line)
    exact absurd newline (by decide)
  · simp [List.getLast?_append, laste.2.2.2.1]
  · simp [isEscapeLiteral, laste.2.2.2.2, lastd.2.2.2.1]

/-- To prefix a tame name makes no tag of what was none. -/
lemma Tame.untagged (tame : Tame names) (named : isNamed names w) :
    Untagged w (p.text.toList ++ lower w) := by
  obtain ⟨spelled, -, start⟩ := tame.of_isNamed named
  have letter := List.all_eq_true.1 spelled
  rw [lower_of_isSpelled spelled]
  refine ⟨?_, fun name => ?_, fun _ digit => ?_⟩
  · rw [List.mem_append, not_or]
    constructor
    · intro mem
      exact absurd (List.all_eq_true.1 p.all_isNameChar _ mem) (by decide)
    · intro mem
      obtain ⟨c, memc, eq⟩ := List.mem_map.1 mem
      have bare := (lower_isSpelled (letter c memc)).2.2.1.1
      rw [eq] at bare
      exact absurd bare (by decide)
  · rw [List.all_append, Bool.and_eq_true, List.all_map] at name
    refine List.all_eq_true.2 fun c mem => ?_
    rw [← (lower_isSpelled (letter c mem)).2.2.2.1]
    exact List.all_eq_true.1 name.2 c mem
  · rw [start] at digit
    cases digit

/-- What a lease makes of a stretch of code can stand in its place. -/
lemma Tame.stands (tame : Tame names) {rest cs : List Char} (some : cs ≠ []) :
    Stands rest cs (mapWords (leaseWord names p.text.toList) cs) := by
  refine (edit_mapWords _ cs (.inl rfl)).stands_of some ?_ ?_
  · rintro front old new after - ⟨-, -, -, rfl, other⟩
    obtain ⟨named, eq⟩ := isNamed_of_ne other
    rw [eq]
    exact tame.mild p named _
  · rintro - before old new after ⟨-, -, -, rfl, other⟩
    obtain ⟨named, eq⟩ := isNamed_of_ne other
    rw [eq]
    exact tame.untagged p named

/-- Renaming the words of a text a second time changes nothing. -/
lemma Tame.mapWords_twice (tame : Tame names) (cs : List Char) :
    mapWords (leaseWord names p.text.toList) (mapWords (leaseWord names p.text.toList) cs) =
      mapWords (leaseWord names p.text.toList) cs := by
  have made : ∀ w ∈ words cs, leaseWord names p.text.toList w ≠ [] ∧
      (leaseWord names p.text.toList w).all isWord := by
    intro w mem
    rw [leaseWord]
    split
    · next named =>
      have letter := List.all_eq_true.1 (tame.of_isNamed named).1
      refine ⟨by simp [p.ne_nil], ?_⟩
      rw [lower_of_isSpelled (tame.of_isNamed named).1, List.all_append, List.all_map,
        all_of_imp (fun _ => isWord_of_isNameChar) p.all_isNameChar, Bool.true_and]
      exact List.all_eq_true.2 fun c memc => (lower_isSpelled (letter c memc)).2.2.1.2
    · exact isWord_of_mem_words mem
  refine mapWords_eq_self fun w mem => ?_
  rw [words_mapWords made] at mem
  obtain ⟨v, -, rfl⟩ := List.mem_map.1 mem
  -- A word that was renamed is no name, and neither is one that was not.
  cases named : isNamed names v with
  | true =>
    have once : leaseWord names p.text.toList v = p.text.toList ++ lower v := if_pos named
    rw [once, leaseWord, tame.not_isNamed p.sanitized.1 named]
    rfl
  | false =>
    have once : leaseWord names p.text.toList v = v := if_neg (by simp [named])
    rw [once, once]

end Prefix

/-! ## Leases -/

/-- A lease of names that are words goes through code word by word. -/
lemma Lease.apply_eq_mapWords {l : Lease} (word : ∀ n ∈ l.words, IsWordName n) (sql : List Char) :
    l.apply sql = mapCode (mapWords (leaseWord l.words l.tablePrefix.text.toList)) sql := by
  rw [l.apply_eq_mapCode]
  exact mapCode_congr fun x _ _ => markWords_eq_mapWords word false (.inl rfl)

/-- The usual tables have tame names. -/
lemma tame_standard (p : TablePrefix) : Tame (Lease.words ⟨p, .standard⟩) := by
  have name : ∀ s ∈ Ownership.standard.own, IsPlainName s.toList ∧ 'k' ∉ s.toList ∧
      2 ≤ s.toList.length ∧ s.toList.head?.any Char.isDigit = false := by decide
  have apart : ∀ s ∈ Ownership.standard.own, ∀ t ∈ Ownership.standard.own,
      ¬ '_' :: t.toList <:+ s.toList := by decide
  constructor
  · intro n mem
    obtain ⟨plain, kelvin, long, start⟩ := name _ (Lease.mem_words.1 mem)
    rw [String.toList_ofList] at plain kelvin long start
    exact ⟨plain, kelvin, long, start⟩
  · intro n mem m mem'
    have differ := apart _ (Lease.mem_words.1 mem) _ (Lease.mem_words.1 mem')
    rwa [String.toList_ofList, String.toList_ofList] at differ

/-- With the tables of every database, a lease puts the prefix in front of the words of code that name one
of them in whatever case, and writes these in lower case; every other character stays, and so does all
that is quoted. What comes out is left alone by the lease. -/
theorem Lease.renames_standard (p : TablePrefix) (sql : List Char) :
    let l : Lease := ⟨p, .standard⟩
    lexemes (l.apply sql) = (lexemes sql).map (recode (mapWords (leaseWord l.words p.text.toList))) ∧
      l.apply (l.apply sql) = l.apply sql := by
  intro l
  have tame : Tame l.words := tame_standard p
  have words (n : List Char) (mem : n ∈ l.words) : IsWordName n := (tame.name n mem).plain.isWordName
  have cut : lexemes (l.apply sql) =
      (lexemes sql).map (recode (mapWords (leaseWord l.words p.text.toList))) := by
    rw [Lease.apply_eq_mapWords words, ← text_recode]
    refine Recoded.lexemes_eq (recoded_map fun front t rest eq => ?_)
    exact tame.stands p (code_of_lexemes eq).1
  refine ⟨cut, ?_⟩
  rw [Lease.apply_eq_mapWords words (l.apply sql)]
  refine mapCode_eq_self fun x mem code => ?_
  rw [cut] at mem
  obtain ⟨⟨kind, t⟩, -, rfl⟩ := List.mem_map.1 mem
  rw [recode] at code ⊢
  split at code
  · next same =>
    rw [if_pos same]
    exact tame.mapWords_twice p t
  · next other => exact absurd code other

end Tenancy
