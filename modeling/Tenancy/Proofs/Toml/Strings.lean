import Mathlib.Tactic.Lemma
import Tenancy.Toml.Text

/-!
# Strings of TOML that are written and read

A string is written in one of six forms, and every form is read back, whatever stands behind it but one
more of its marks: `readString_stringText`. What is written between quotes is read character by character
(`readBasic_escapedLine`, `readBasicLines_escapedLines`), between apostrophes as it stands
(`readLiteral_append`, `readLiteralLines_append`). No form has a control character in it but tabs and line
ends (`isControl_stringText`).
-/

namespace Tenancy.Toml
open Text

/-! ## Characters -/

/-- How a character that is no quote is written: as it is, or by an escape that is read back. -/
inductive Spelled (c : Char) : List Char → Prop where
  | plain (visible : isControl c = false) (slash : c ≠ '\\') (inLine : c ≠ '\n') : Spelled c [c]
  | escape {letter : Char} {more : List Char}
    (inLine : letter ≠ '\n' ∧ letter ≠ ' ' ∧ letter ≠ '\t')
    (visible : (letter :: more).all (!isControl ·))
    (reads : ∀ rest, readEscape? (letter :: (more ++ rest)) = some (c, rest)) :
    Spelled c ('\\' :: letter :: more)

/-- A character with an escape of its own is spelled by it. -/
lemma spelled_letter {c letter : Char} (h : escapeLetter? c = some letter) : Spelled c ['\\', letter] := by
  have known : (c, letter) ∈ [('\x08', 'b'), ('\t', 't'), ('\n', 'n'), ('\x0c', 'f'), ('\r', 'r'),
      ('\\', '\\')] := by
    simp only [escapeLetter?] at h
    grind
  simp only [List.mem_cons, Prod.mk.injEq, List.not_mem_nil, or_false] at known
  rcases known with ⟨rfl, rfl⟩ | ⟨rfl, rfl⟩ | ⟨rfl, rfl⟩ | ⟨rfl, rfl⟩ | ⟨rfl, rfl⟩ | ⟨rfl, rfl⟩ <;>
    exact .escape (by decide) (by decide) fun rest => rfl

/-- The digits after which a control character is read. -/
lemma digits_control : ∀ n < 128, isControl (Char.ofNat n) →
    (hexByte true (UInt8.ofNat n)).all (!isControl ·) ∧
      codePoint? (['0', '0'] ++ hexByte true (UInt8.ofNat n)) = some (Char.ofNat n) := by
  decide +kernel

/-- Every character is spelled by what is written for it. -/
lemma spelled_escaped (c : Char) : Spelled c (escaped c) := by
  unfold escaped
  rcases letter : escapeLetter? c with _ | l
  · by_cases control : isControl c
    · have low : c.toNat < 128 := by
        rw [isControl, Bool.or_eq_true, Bool.and_eq_true, Bool.and_eq_true, decide_eq_true_eq,
          decide_eq_true_eq] at control
        rcases control with ⟨⟨low, -⟩, -⟩ | same
        · omega
        · rw [of_decide_eq_true same]
          decide
      obtain ⟨visible, reads⟩ := digits_control c.toNat low (by rwa [Char.ofNat_toNat])
      rw [Char.ofNat_toNat] at reads
      simp only [control, ↓reduceIte]
      change Spelled c ('\\' :: 'u' :: (['0', '0'] ++ hexByte true (UInt8.ofNat c.toNat)))
      refine .escape (by decide) ?_ fun rest => ?_
      · rw [List.all_cons, List.all_append, visible]
        rfl
      · change (codePoint? (['0', '0'] ++ hexByte true (UInt8.ofNat c.toNat))).map (·, rest) = _
        rw [reads]
        rfl
    · simp only [control, Bool.false_eq_true, ↓reduceIte]
      have other {d : Char} (known : (escapeLetter? d).isSome) : c ≠ d := by
        rintro rfl
        rw [letter] at known
        cases known
      exact .plain (by simpa using control) (other (by decide)) (other (by decide))
  · exact spelled_letter letter

/-! ## Between quotes -/

/-- An escape in a string of one line is read as the character that it stands for. -/
lemma readBasic_escape {c : Char} {cs rest : List Char} (h : readEscape? cs = some (c, rest)) :
    readBasic? ('\\' :: cs) = (readBasic? rest).map (cons c) := by
  rw [readBasic?, if_neg (by decide), if_neg (by decide), if_pos rfl]
  split
  · next found =>
    rw [h] at found
    cases found
    rfl
  · next none =>
    rw [h] at none
    cases none

/-- What spells a character is read as that character, unless it is the mark. -/
lemma readBasic_spelled {c : Char} {text : List Char} (h : Spelled c text) (quote : c ≠ '"')
    (rest : List Char) : readBasic? (text ++ rest) = (readBasic? rest).map (cons c) := by
  cases h with
  | plain _ slash inLine =>
    rw [List.singleton_append, readBasic?]
    simp [quote, slash, inLine]
  | escape _ _ reads =>
    exact readBasic_escape (reads rest)

/-- A string that is written on one line is read again. -/
lemma readBasic_escapedLine (cs rest : List Char) :
    readBasic? (escapedLine cs ++ '"' :: rest) = some (cs, rest) := by
  induction cs with
  | nil => simp [escapedLine, readBasic?]
  | cons c cs ih =>
    rw [escapedLine, List.flatMap_cons, ← escapedLine, List.append_assoc]
    by_cases quote : c = '"'
    · subst quote
      change readBasic? ('\\' :: '"' :: (escapedLine cs ++ '"' :: rest)) = _
      rw [readBasic_escape rfl, ih]
      rfl
    · rw [if_neg quote, readBasic_spelled (spelled_escaped c) quote, ih]
      rfl

/-- An ordinary character in a string of several lines stands for itself. -/
lemma readBasicLines_plain {c : Char} (quote : c ≠ '"') (slash : c ≠ '\\') (rest : List Char) :
    readBasicLines? false (c :: rest) = (readBasicLines? false rest).map (cons c) := by
  rw [readBasicLines?]
  simp [Ne.symm quote, slash]

/-- An escape that is not at the end of a line stands for a character. -/
lemma readBasicLines_escape {c : Char} {cs rest : List Char} (goesOn : atLineEnd cs = false)
    (h : readEscape? cs = some (c, rest)) :
    readBasicLines? false ('\\' :: cs) = (readBasicLines? false rest).map (cons c) := by
  rw [readBasicLines?, if_neg (by simp), if_neg (by simp), if_pos rfl, goesOn, if_neg (by simp)]
  split
  · next found =>
    rw [h] at found
    cases found
    rfl
  · next none =>
    rw [h] at none
    cases none

/-- What spells a character is read as that character there too. -/
lemma readBasicLines_spelled {c : Char} {text : List Char} (h : Spelled c text) (quote : c ≠ '"')
    (rest : List Char) :
    readBasicLines? false (text ++ rest) = (readBasicLines? false rest).map (cons c) := by
  cases h with
  | plain _ slash _ => exact readBasicLines_plain quote slash rest
  | @escape letter more inLine _ reads =>
    have goesOn : atLineEnd (letter :: (more ++ rest)) = false := by
      simp [atLineEnd, inLine]
    exact readBasicLines_escape goesOn (reads rest)

/-- Three marks. -/
def three (mark : Char) : List Char := [mark, mark, mark]

/-- The marks that stand right after three of them, up to two, belong to the string. -/
lemma closing_append {mark : Char} {rest : List Char} (h : rest.head? ≠ some mark) :
    ∀ n ≤ 2, closing mark (List.replicate n mark ++ rest) = (List.replicate n mark, rest) := by
  have none : closing mark rest = ([], rest) := by
    cases rest with
    | nil => rfl
    | cons a rest =>
      have other : a ≠ mark := by simpa using h
      cases rest with
      | nil => simp [closing, other]
      | cons b rest => simp [closing, other]
  intro n le
  match n with
  | 0 => exact none
  | 1 =>
    cases rest with
    | nil => simp [closing]
    | cons b rest =>
      have other : b ≠ mark := by simpa using h
      simp [closing, other]
  | 2 => simp [closing]

/-- Quotes at the end of a string stand in front of the three that close it. -/
lemma readBasicLines_quotes {rest : List Char} (h : rest.head? ≠ some '"') :
    ∀ n ≤ 2, readBasicLines? false (List.replicate n '"' ++ (three '"' ++ rest)) =
      some (List.replicate n '"', rest) := by
  intro n le
  have whole : List.replicate n '"' ++ (three '"' ++ rest) =
      three '"' ++ (List.replicate n '"' ++ rest) := by
    match n with
    | 0 | 1 | 2 => rfl
  rw [whole, ← closing_append h n le, three, List.cons_append, readBasicLines?]
  simp

/-- A quote that is followed by fewer than two others is one of the string. -/
lemma readBasicLines_quote {rest : List Char} (h : ['"', '"'].isPrefixOf rest = false) :
    readBasicLines? false ('"' :: rest) = (readBasicLines? false rest).map (cons '"') := by
  rw [readBasicLines?]
  simp [h]

/-- What is written for a text that does not start with the mark does not start with it either. -/
lemma head_escapedLines {c : Char} {n : Nat} (quote : c ≠ '"') (cs : List Char) :
    ∃ d more, escapedLines n (c :: cs) = d :: more ∧ d ≠ '"' := by
  rw [escapedLines, if_neg quote]
  by_cases line : c = '\n'
  · exact ⟨c, _, if_pos line, quote⟩
  · rw [if_neg line]
    cases spelled : escaped c with
    | nil =>
      have h := spelled_escaped c
      rw [spelled] at h
      cases h
    | cons d more =>
      refine ⟨d, more ++ escapedLines 0 cs, rfl, ?_⟩
      have h := spelled_escaped c
      rw [spelled] at h
      cases h with
      | plain => exact quote
      | escape => decide

/-- Where a string goes on after one or two quotes, there are no three of them. -/
lemma isPrefixOf_escapedLines {cs rest : List Char} (goesOn : cs ≠ []) :
    ['"', '"'].isPrefixOf (escapedLines 2 cs ++ rest) = false ∧
      (cs ≠ ['"'] → ['"', '"'].isPrefixOf (escapedLines 1 cs ++ rest) = false) := by
  have second {cs : List Char} (some : cs ≠ []) :
      ∃ d more, escapedLines 2 cs = d :: more ∧ d ≠ '"' := by
    obtain ⟨c, cs, rfl⟩ := List.exists_cons_of_ne_nil some
    by_cases quote : c = '"'
    · exact ⟨'\\', '"' :: escapedLines 0 cs, by simp [escapedLines, quote], by decide⟩
    · exact head_escapedLines quote cs
  constructor
  · obtain ⟨d, more, eq, other⟩ := second goesOn
    simp [eq, List.isPrefixOf_cons_cons, Ne.symm other]
  · intro two
    obtain ⟨c, cs, rfl⟩ := List.exists_cons_of_ne_nil goesOn
    by_cases quote : c = '"'
    · subst quote
      have goesOn : cs ≠ [] := by simpa using two
      obtain ⟨d, more, eq, other⟩ := second goesOn
      simp [escapedLines, eq, List.isPrefixOf_cons_cons, Ne.symm other]
    · obtain ⟨d, more, eq, other⟩ := head_escapedLines (n := 1) quote cs
      simp [eq, List.isPrefixOf_cons_cons, Ne.symm other]

/-- A string that is written on several lines is read again. -/
theorem readBasicLines_escapedLines {rest : List Char} (h : rest.head? ≠ some '"') (cs : List Char) :
    ∀ n ≤ 2, readBasicLines? false (escapedLines n cs ++ (three '"' ++ rest)) = some (cs, rest) := by
  induction cs with
  | nil => exact fun _ _ => readBasicLines_quotes h 0 (by decide)
  | cons c cs ih =>
    intro n le
    by_cases quote : c = '"'
    · subst quote
      match n with
      | 0 =>
        by_cases last : cs = [] ∨ cs = ['"']
        · -- The string ends in one or two quotes, which run into those that close it.
          rcases last with rfl | rfl
          · exact readBasicLines_quotes h 1 (by decide)
          · exact readBasicLines_quotes h 2 (by decide)
        · obtain ⟨some, two⟩ := not_or.1 last
          change readBasicLines? false ('"' :: (escapedLines 1 cs ++ _)) = _
          rw [readBasicLines_quote ((isPrefixOf_escapedLines some).2 two), ih 1 (by decide)]
          rfl
      | 1 =>
        by_cases last : cs = []
        · subst last
          exact readBasicLines_quotes h 1 (by decide)
        · change readBasicLines? false ('"' :: (escapedLines 2 cs ++ _)) = _
          rw [readBasicLines_quote (isPrefixOf_escapedLines last).1, ih 2 (by decide)]
          rfl
      | 2 =>
        change readBasicLines? false ('\\' :: '"' :: (escapedLines 0 cs ++ _)) = _
        rw [readBasicLines_escape (by simp [atLineEnd]) rfl, ih 0 (by decide)]
        rfl
    · rw [escapedLines, if_neg quote]
      by_cases line : c = '\n'
      · rw [if_pos line, List.cons_append,
          readBasicLines_plain quote (by rintro rfl; cases line), ih 0 (by decide)]
        rfl
      · rw [if_neg line, List.append_assoc, readBasicLines_spelled (spelled_escaped c) quote,
          ih 0 (by decide)]
        rfl

/-! ## Between apostrophes -/

/-- A literal string is read as it stands, up to its mark. -/
lemma readLiteral_append {cs : List Char} (mark : apostrophe ∉ cs) (line : '\n' ∉ cs) (rest : List Char) :
    readLiteral? (cs ++ apostrophe :: rest) = some (cs, rest) := by
  induction cs with
  | nil => simp [readLiteral?]
  | cons c cs ih =>
    simp only [List.mem_cons, not_or] at mark line
    rw [List.cons_append, readLiteral?, if_neg (Ne.symm mark.1), if_neg (Ne.symm line.1), ih mark.2 line.2]
    rfl

/-- One or two marks in front of the three that end a literal belong to it. -/
lemma readLiteralLines_apostrophes {rest : List Char} (h : rest.head? ≠ some apostrophe) :
    ∀ n ≤ 2, readLiteralLines? (List.replicate n apostrophe ++ (three apostrophe ++ rest)) =
      some (List.replicate n apostrophe, rest) := by
  intro n le
  have whole : List.replicate n apostrophe ++ (three apostrophe ++ rest) =
      three apostrophe ++ (List.replicate n apostrophe ++ rest) := by
    match n with
    | 0 | 1 | 2 => rfl
  rw [whole, ← closing_append h n le, three, List.cons_append, readLiteralLines?]
  simp

/-- A literal of several lines is read as it stands, if it has no three marks in a row. -/
theorem readLiteralLines_append {cs rest : List Char} (h : rest.head? ≠ some apostrophe)
    (runs : hasRun apostrophe 3 cs = false) :
    readLiteralLines? (cs ++ (three apostrophe ++ rest)) = some (cs, rest) := by
  induction cs with
  | nil => exact readLiteralLines_apostrophes h 0 (by decide)
  | cons c cs ih =>
    rw [hasRun, Bool.or_eq_false_iff] at runs
    obtain ⟨here, later⟩ := runs
    by_cases last : c :: cs = [apostrophe] ∨ c :: cs = [apostrophe, apostrophe]
    · rcases last with eq | eq
      · rw [eq]
        exact readLiteralLines_apostrophes h 1 (by decide)
      · rw [eq]
        exact readLiteralLines_apostrophes h 2 (by decide)
    · have fewer : [apostrophe, apostrophe, apostrophe].isPrefixOf
          (c :: (cs ++ (three apostrophe ++ rest))) = false := by
        obtain ⟨one, two⟩ := not_or.1 last
        cases cs with
        | nil =>
          have other : apostrophe ≠ c := fun eq => one (by rw [eq])
          simp [List.isPrefixOf_cons_cons, other]
        | cons d cs =>
          cases cs with
          | nil =>
            have other : ¬ (apostrophe = c ∧ apostrophe = d) := by
              rintro ⟨rfl, rfl⟩
              exact two rfl
            simpa [List.isPrefixOf_cons_cons] using fun eq eq' => absurd ⟨eq, eq'⟩ other
          | cons e cs => simpa [List.replicate, List.isPrefixOf_cons_cons] using here
      rw [List.cons_append, readLiteralLines?, fewer, ih later]
      rfl

/-! ## Any string -/

/-- Where no line ends nothing is left out. -/
lemma afterLineEnd_of_head {cs : List Char} (h : cs.head? ≠ some '\n') : afterLineEnd cs = cs := by
  unfold afterLineEnd
  split
  · exact absurd rfl h
  · rfl

/-- A string over lines starts on a new one if it has any. -/
lemma afterLineEnd_opening {cs text : List Char} (h : '\n' ∉ cs → text.head? ≠ some '\n') :
    afterLineEnd ((if '\n' ∈ cs then ['\n'] else []) ++ text) = text := by
  by_cases line : '\n' ∈ cs
  · rw [if_pos line]
    rfl
  · rw [if_neg line]
    exact afterLineEnd_of_head (h line)

/-- What is written for a text without line breaks does not start with one. -/
lemma head_escapedLines_append {cs : List Char} (line : '\n' ∉ cs) (rest : List Char) :
    (escapedLines 0 cs ++ (three '"' ++ rest)).head? ≠ some '\n' := by
  cases cs with
  | nil => simp [escapedLines, three]
  | cons c cs =>
    rw [List.mem_cons, not_or] at line
    by_cases quote : c = '"'
    · simp [escapedLines, quote]
    · rw [escapedLines, if_neg quote, if_neg (Ne.symm line.1)]
      have h := spelled_escaped c
      revert h
      generalize escaped c = text
      rintro (⟨-, -, inLine⟩ | ⟨-, -, -⟩)
      · simpa using inLine
      · simp

/-- A string that does not start with three marks is one of one line. -/
lemma readString_line {cs : List Char} (h : ['"', '"'].isPrefixOf cs = false) :
    readString? ('"' :: cs) = readBasic? cs := by
  unfold readString?
  split
  · next eq =>
    cases eq
    simp at h
  · next eq =>
    cases eq
    rfl
  · next other eq =>
    cases eq
    exact absurd rfl other
  · next eq => cases eq

/-- What is written on one line does not start with three marks. -/
lemma isPrefixOf_escapedLine {rest : List Char} (h : rest.head? ≠ some '"') (cs : List Char) :
    ['"', '"'].isPrefixOf (escapedLine cs ++ '"' :: rest) = false := by
  cases cs with
  | nil =>
    cases rest with
    | nil => rfl
    | cons c rest =>
      have other : '"' ≠ c := fun eq => h (by rw [← eq]; rfl)
      simp [escapedLine, List.isPrefixOf_cons_cons, other]
  | cons c cs =>
    rw [escapedLine, List.flatMap_cons]
    by_cases quote : c = '"'
    · simp [quote, List.isPrefixOf_cons_cons]
    · rw [if_neg quote]
      have h := spelled_escaped c
      revert h
      generalize escaped c = text
      rintro (_ | _)
      · simp [List.isPrefixOf_cons_cons, Ne.symm quote]
      · simp [List.isPrefixOf_cons_cons]

section Forms
variable {cs rest : List Char}

/-- What is written on one line between quotes is read back. -/
lemma readString_escapedLine (quote : rest.head? ≠ some '"') :
    readString? ('"' :: escapedLine cs ++ ['"'] ++ rest) = some (cs, rest) := by
  rw [List.append_assoc, List.cons_append, List.singleton_append,
    readString_line (isPrefixOf_escapedLine quote cs), readBasic_escapedLine]

/-- What is written over lines between quotes is read back. -/
lemma readString_escapedLines (quote : rest.head? ≠ some '"') :
    readString? (three '"' ++ (if '\n' ∈ cs then ['\n'] else []) ++ escapedLines 0 cs ++ three '"' ++
      rest) = some (cs, rest) := by
  rw [List.append_assoc, List.append_assoc, List.append_assoc]
  change readBasicLines? false (afterLineEnd
    ((if '\n' ∈ cs then ['\n'] else []) ++ (escapedLines 0 cs ++ (three '"' ++ rest)))) = _
  rw [afterLineEnd_opening fun line => head_escapedLines_append line rest]
  exact readBasicLines_escapedLines quote cs 0 (by decide)

/-- What is written on one line between apostrophes is read back, if it is anything. -/
lemma readString_literal (some : cs ≠ []) (mark : apostrophe ∉ cs) (line : '\n' ∉ cs) :
    readString? (apostrophe :: cs ++ [apostrophe] ++ rest) = .some (cs, rest) := by
  have single : [apostrophe, apostrophe].isPrefixOf (cs ++ apostrophe :: rest) = false := by
    obtain ⟨c, cs, rfl⟩ := List.exists_cons_of_ne_nil some
    rw [List.mem_cons, not_or] at mark
    simp [List.isPrefixOf_cons_cons, mark.1]
  rw [List.append_assoc, List.cons_append, List.singleton_append]
  change (if [apostrophe, apostrophe].isPrefixOf (cs ++ apostrophe :: rest) then _ else
    readLiteral? (cs ++ apostrophe :: rest)) = _
  rw [single, if_neg (by decide), readLiteral_append mark line]

/-- What is written over lines between apostrophes is read back. -/
lemma readString_literalLines (mark : rest.head? ≠ some apostrophe)
    (runs : hasRun apostrophe 3 cs = false) :
    readString? (three apostrophe ++ (if '\n' ∈ cs then ['\n'] else []) ++ cs ++ three apostrophe ++
      rest) = some (cs, rest) := by
  rw [List.append_assoc, List.append_assoc, List.append_assoc]
  change readLiteralLines? (afterLineEnd
    ((if '\n' ∈ cs then ['\n'] else []) ++ (cs ++ (three apostrophe ++ rest)))) = _
  rw [afterLineEnd_opening, readLiteralLines_append mark runs]
  intro line
  cases cs with
  | nil => exact ne_of_beq_false rfl
  | cons c cs => simpa using fun eq => line (by simp [eq])

end Forms

/-- A string is read back from what is written of it, if none of its marks follows. -/
theorem readString_stringText (s : String) {rest : List Char} (quote : rest.head? ≠ some '"')
    (mark : rest.head? ≠ some apostrophe) :
    readString? ((stringText s).toList ++ rest) = some (s.toList, rest) := by
  rw [stringText, String.toList_ofList]
  generalize s.toList = cs
  split
  · exact readString_escapedLine quote
  split
  · next fits noMark =>
    obtain ⟨none, line, visible⟩ := noMark
    refine readString_literal ?_ none line
    rintro rfl
    exact fits (by simp)
  split
  · exact readString_escapedLines quote
  split
  · next runs => exact readString_literalLines mark (by simpa using runs.2)
  split
  · next lines =>
    have opening : (if '\n' ∈ cs then ['\n'] else []) = ['\n'] := if_pos lines
    rw [← opening]
    exact readString_escapedLines quote
  · exact readString_escapedLine quote

/-- What is written of a string starts with a mark. -/
lemma head_stringText (s : String) :
    ∃ c cs, (stringText s).toList = c :: cs ∧ (c = '"' ∨ c = apostrophe) := by
  rw [stringText, String.toList_ofList]
  split
  · exact ⟨_, _, rfl, .inl rfl⟩
  split
  · exact ⟨_, _, rfl, .inr rfl⟩
  split
  · exact ⟨_, _, rfl, .inl rfl⟩
  split
  · exact ⟨_, _, rfl, .inr rfl⟩
  split
  · exact ⟨_, _, rfl, .inl rfl⟩
  · exact ⟨_, _, rfl, .inl rfl⟩

/-! ## Control characters -/

/-- What spells a character has no control character in it. -/
lemma Spelled.visible {c : Char} {text : List Char} (h : Spelled c text) :
    text.all (!isControl ·) := by
  cases h with
  | plain visible => simp [visible]
  | escape _ visible =>
    rw [List.all_cons, visible]
    decide

/-- Nor has what is written on one line. -/
lemma isControl_escapedLine (cs : List Char) : (escapedLine cs).all (!isControl ·) := by
  rw [escapedLine, List.all_flatMap, List.all_eq_true]
  intro c _
  split
  · decide
  · exact (spelled_escaped c).visible

/-- Nor has what is written on several lines. -/
lemma isControl_escapedLines (cs : List Char) : ∀ n, (escapedLines n cs).all (!isControl ·) := by
  induction cs with
  | nil => exact fun _ => rfl
  | cons c cs ih =>
    intro n
    rw [escapedLines]
    split
    · split
      · rw [List.all_cons, List.all_cons, ih]
        decide
      · rw [List.all_cons, ih]
        decide
    split
    · next line =>
      rw [List.all_cons, ih, line]
      decide
    · rw [List.all_append, ih, (spelled_escaped c).visible]
      rfl

/-- What is written of a string has no control character in it. -/
theorem isControl_stringText (s : String) : (stringText s).toList.all (!isControl ·) := by
  rw [stringText, String.toList_ofList]
  generalize s.toList = cs
  have marks : ∀ mark ∈ ['"', apostrophe], (List.replicate 3 mark).all (!isControl ·) ∧
      isControl mark = false := by
    simp [apostrophe, isControl, delete, List.replicate]
  have opening : (if '\n' ∈ cs then ['\n'] else []).all (!isControl ·) := by
    split
    · decide
    · rfl
  have plain (visible : ¬ cs.any isControl = true) : cs.all (!isControl ·) := by
    simpa using visible
  have quotes := marks '"' (by simp)
  have apostrophes := marks apostrophe (by simp)
  split
  · simp [isControl_escapedLine, quotes]
  split
  · next fits =>
    simp only [List.cons_append, List.all_cons, List.all_append, plain fits.2.2, apostrophes]
    rfl
  split
  · simp only [List.all_append, quotes, opening, isControl_escapedLines, Bool.and_self]
  split
  · next fits => simp only [List.all_append, apostrophes, opening, plain fits.1, Bool.and_self]
  split
  · simp only [List.all_append, quotes, isControl_escapedLines, Bool.and_true, Bool.true_and]
    decide
  · simp [isControl_escapedLine, quotes]

end Tenancy.Toml
