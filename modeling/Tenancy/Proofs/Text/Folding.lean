import Mathlib.Data.List.Sort
import Tenancy.Proofs.Text.Ascii
import Tenancy.Proofs.Text.Utf8
import Tenancy.Text.Word

/-!
# Words of any script

What the tables of code points say about words and case: characters that fold alike are word characters
together (`isWord_of_fold`), only two characters outside of ASCII fold like one of ASCII
(`isAscii_or_of_fold`), and nothing in lower case has an ASCII capital (`toLower_of_mem_lower`).
-/

namespace Tenancy.Text
open Sql

/-- What is left of spans of code points, in increasing order, when each interval takes off those that lie
in it. -/
def Intervals.uncovered : Intervals → List (Nat × Nat) → List (Nat × Nat)
  | [], spans => spans
  | i :: rest, spans => uncovered rest (spans.dropWhile fun s => i.1 ≤ s.1 && s.2 ≤ i.2)

/-- A span that is not left uncovered lies within an interval. -/
lemma Intervals.exists_of_uncovered {t : Intervals} {spans : List (Nat × Nat)}
    (h : t.uncovered spans = []) {s : Nat × Nat} (mem : s ∈ spans) :
    ∃ i ∈ t, i.1 ≤ s.1 ∧ s.2 ≤ i.2 := by
  induction t generalizing spans with
  | nil =>
    obtain rfl : spans = [] := h
    cases mem
  | cons i rest ih =>
    rw [← List.takeWhile_append_dropWhile (p := fun s => i.1 ≤ s.1 && s.2 ≤ i.2) (l := spans)] at mem
    rcases List.mem_append.1 mem with taken | left
    · have inside := List.all_eq_true.1 List.all_takeWhile s taken
      simp only [Bool.and_eq_true, decide_eq_true_eq] at inside
      exact ⟨i, List.mem_cons_self, inside⟩
    · obtain ⟨j, memj, inside⟩ := ih h left
      exact ⟨j, List.mem_cons_of_mem i memj, inside⟩

/-- A number within one of the intervals is found there, if they are in order. -/
lemma Intervals.contains_of_mem {t : Intervals} (sorted : (t.map Prod.fst).Pairwise (· ≤ ·))
    {i : Nat × Nat} (mem : i ∈ t) {n : Nat} (low : i.1 ≤ n) (high : n ≤ i.2) : t.contains n := by
  induction t with
  | nil => cases mem
  | cons j rest ih =>
    rw [List.map_cons, List.pairwise_cons] at sorted
    obtain ⟨lo, hi⟩ := j
    rw [contains]
    rcases List.mem_cons.1 mem with rfl | later
    · rw [if_neg (by omega), Bool.or_eq_true, decide_eq_true_eq]
      exact .inl high
    · have first : lo ≤ i.1 := sorted.1 i.1 (List.mem_map_of_mem later)
      rw [if_neg (by omega), ih sorted.2 later, Bool.or_true]

/-- What holds of the runs of a table and of all that they move. -/
lemma Shifts.image_eq_some {t : Shifts} {n m : Nat} (h : t.image? n = some m) :
    ∃ r ∈ t, r.1 ≤ n ∧ n ≤ r.2.1 ∧ (n - r.1) % r.2.2.1 = 0 ∧ m = (n + r.2.2.2 : Int).toNat := by
  induction t with
  | nil => cases h
  | cons r rest ih =>
    obtain ⟨first, last, step, shift⟩ := r
    rw [image?] at h
    split at h
    · cases h
    · next low =>
      split at h
      · next high =>
        split at h
        · next even =>
          cases h
          exact ⟨_, List.mem_cons_self, Nat.le_of_not_lt low, high, even, rfl⟩
        · cases h
      · obtain ⟨r, mem, found⟩ := ih h
        exact ⟨r, List.mem_cons_of_mem _ mem, found⟩

/-- What a run moves, as spans of code points. -/
def movedSpans (r : Nat × Nat × Nat × Int) : List (Nat × Nat) :=
  if r.2.2.1 = 1 then [(r.1, r.2.1)]
  else (List.range ((r.2.1 - r.1) / r.2.2.1 + 1)).map fun k =>
    (r.1 + k * r.2.2.1, r.1 + k * r.2.2.1)

/-- Where a run moves code points to. -/
def imageSpan (r : Nat × Nat × Nat × Int) : Nat × Nat :=
  ((r.1 + r.2.2.2 : Int).toNat, (r.2.1 + r.2.2.2 : Int).toNat)

/-- A number that is moved lies within one of the moved spans. -/
lemma exists_of_moved {r : Nat × Nat × Nat × Int} {n : Nat} (low : r.1 ≤ n) (high : n ≤ r.2.1)
    (even : (n - r.1) % r.2.2.1 = 0) : ∃ s ∈ movedSpans r, s.1 ≤ n ∧ n ≤ s.2 := by
  rw [movedSpans]
  split
  · exact ⟨_, List.mem_singleton_self _, low, high⟩
  · have place : r.1 + (n - r.1) / r.2.2.1 * r.2.2.1 = n := by
      have parts := Nat.div_add_mod (n - r.1) r.2.2.1
      rw [even, Nat.mul_comm] at parts
      omega
    have le : (n - r.1) / r.2.2.1 ≤ (r.2.1 - r.1) / r.2.2.1 := Nat.div_le_div_right (by omega)
    have among : (n - r.1) / r.2.2.1 ∈ List.range ((r.2.1 - r.1) / r.2.2.1 + 1) := by
      rw [List.mem_range]
      omega
    exact ⟨_, List.mem_map_of_mem among, place.le, place.ge⟩

/-- The table of words is in order and has valid code points alone, and among them are those that folding
moves, those that it moves them to, and the digits. -/
lemma wordIntervals_checked :
    (wordIntervals.map Prod.fst).IsChain (· ≤ ·) ∧
      (∀ i ∈ wordIntervals, i.2 < 0xD800 ∨ 0xDFFF < i.1 ∧ i.2 < 0x110000) ∧
      wordIntervals.uncovered (foldShifts.flatMap movedSpans) = [] ∧
      wordIntervals.uncovered ((foldShifts.map imageSpan).insertionSort (·.1 ≤ ·.1)) = [] ∧
      wordIntervals.uncovered digitIntervals = [] := by
  decide +kernel

/-- A number within a span that is covered is found. -/
lemma Intervals.contains_of_uncovered {t : Intervals} (sorted : (t.map Prod.fst).IsChain (· ≤ ·))
    {spans : List (Nat × Nat)} (h : t.uncovered spans = []) {s : Nat × Nat} (mem : s ∈ spans) {n : Nat}
    (low : s.1 ≤ n) (high : n ≤ s.2) : t.contains n := by
  obtain ⟨i, memi, first, last⟩ := exists_of_uncovered h mem
  exact contains_of_mem (List.isChain_iff_pairwise.1 sorted) memi (first.trans low) (high.trans last)

/-- So it is among the characters of words. -/
lemma isWord_of_uncovered {spans : List (Nat × Nat)} (h : wordIntervals.uncovered spans = [])
    {s : Nat × Nat} (mem : s ∈ spans) {n : Nat} (low : s.1 ≤ n) (high : n ≤ s.2) :
    wordIntervals.contains n :=
  Intervals.contains_of_uncovered wordIntervals_checked.1 h mem low high

/-- A number that is found lies within one of the intervals. -/
lemma Intervals.exists_of_contains {t : Intervals} {n : Nat} (h : t.contains n) :
    ∃ i ∈ t, i.1 ≤ n ∧ n ≤ i.2 := by
  induction t with
  | nil => cases h
  | cons i rest ih =>
    obtain ⟨lo, hi⟩ := i
    rw [contains] at h
    split at h
    · cases h
    · next low =>
      rw [Bool.or_eq_true, decide_eq_true_eq] at h
      rcases h with high | later
      · exact ⟨_, List.mem_cons_self, Nat.le_of_not_lt low, high⟩
      · obtain ⟨i, mem, within⟩ := ih later
        exact ⟨i, List.mem_cons_of_mem _ mem, within⟩

/-- A code point of a word is that of a character of words. -/
lemma isWord_ofNat {n : Nat} (h : wordIntervals.contains n) : isWord (Char.ofNat n) = true := by
  obtain ⟨i, mem, low, high⟩ := Intervals.exists_of_contains h
  have valid : n.isValidChar := by
    rcases wordIntervals_checked.2.1 i mem with small | ⟨above, below⟩
    · exact .inl (Nat.lt_of_le_of_lt high small)
    · exact .inr ⟨Nat.lt_of_lt_of_le above low, Nat.lt_of_le_of_lt high below⟩
  rw [isWord, toNat_ofNat_of_valid valid, h]

/-- Folding goes from words to words. -/
lemma isWord_foldChar (c : Char) : isWord (foldChar c) = isWord c := by
  rw [foldChar]
  cases moved : foldShifts.image? c.toNat with
  | none => rfl
  | some m =>
    obtain ⟨r, mem, low, high, even, rfl⟩ := Shifts.image_eq_some moved
    have here : wordIntervals.contains c.toNat := by
      obtain ⟨s, mems, first, last⟩ := exists_of_moved low high even
      exact isWord_of_uncovered wordIntervals_checked.2.2.1 (List.mem_flatMap.2 ⟨r, mem, mems⟩) first last
    have there : wordIntervals.contains (c.toNat + r.2.2.2 : Int).toNat := by
      have among := (List.mem_insertionSort (·.1 ≤ ·.1)).2 (List.mem_map_of_mem (f := imageSpan) mem)
      exact isWord_of_uncovered wordIntervals_checked.2.2.2.1 among (by dsimp only [imageSpan]; omega)
        (by dsimp only [imageSpan]; omega)
    rw [isWord_ofNat there, isWord, here]

/-- Characters that fold alike are word characters together. -/
lemma isWord_of_fold {c d : Char} (h : foldChar c = foldChar d) : isWord c = isWord d := by
  rw [← isWord_foldChar c, h, isWord_foldChar]

/-- Folding moves two code points from outside of ASCII into it, and moves all to valid ones. -/
lemma foldShifts_checked : ∀ r ∈ foldShifts,
    (r.2.1 < 128 ∨ 128 ≤ r.1 + r.2.2.2 ∨ r.1 = r.2.1 ∧ (r.1 = 0x17F ∨ r.1 = 0x212A)) ∧
      (r.2.1 + r.2.2.2 < 0xD800 ∨ 0xDFFF < r.1 + r.2.2.2 ∧ r.2.1 + r.2.2.2 < 0x110000) := by
  decide +kernel

/-- Two characters outside of ASCII fold like one of ASCII: the long s and the sign for kelvin. -/
lemma isAscii_or_of_fold {c : Char} (h : isAscii (foldChar c)) :
    isAscii c ∨ c = 'ſ' ∨ c = '\u212A' := by
  rw [foldChar] at h
  cases moved : foldShifts.image? c.toNat with
  | none =>
    rw [moved] at h
    exact .inl h
  | some m =>
    rw [moved] at h
    obtain ⟨r, mem, low, high, -, rfl⟩ := Shifts.image_eq_some moved
    rcases (foldShifts_checked r mem).1 with small | large | ⟨single, one⟩
    · exact .inl (decide_eq_true (by omega))
    · have valid : (c.toNat + r.2.2.2 : Int).toNat.isValidChar := by
        rcases (foldShifts_checked r mem).2 with below | ⟨above, below⟩
        · exact .inl (by omega)
        · exact .inr ⟨by omega, by omega⟩
      have small : (Char.ofNat (c.toNat + r.2.2.2 : Int).toNat).toNat < 128 := of_decide_eq_true h
      rw [toNat_ofNat_of_valid valid] at small
      omega
    · have same : c.toNat = r.1 := by omega
      refine .inr (one.imp ?_ ?_)
      · intro long
        rw [← Char.ofNat_toNat c, same, long]
      · intro kelvin
        rw [← Char.ofNat_toNat c, same, kelvin]

/-- What folds like a character of names is one, or one of the two that are not in ASCII. -/
lemma isNameChar_or_of_fold {c d : Char} (hd : isNameChar d) (h : foldChar c = foldChar d) :
    isNameChar c ∨ c = 'ſ' ∨ c = '\u212A' := by
  have asciid := isAscii_of_isNameChar hd
  have ascii : isAscii (foldChar c) := by
    rw [h, foldChar_of_isAscii asciid]
    exact isAscii_of_isNameChar (by rw [isNameChar_toLower asciid, hd])
  rcases isAscii_or_of_fold ascii with asciic | other
  · rw [foldChar_of_isAscii asciic, foldChar_of_isAscii asciid] at h
    exact .inl (by rw [← isNameChar_toLower asciic, h, isNameChar_toLower asciid, hd])
  · exact .inr other

/-! ## Digits and blanks -/

/-- A digit of any script is a character of words. -/
lemma isWord_of_isDecimal {c : Char} (h : isDecimal c) : isWord c = true := by
  obtain ⟨i, mem, low, high⟩ := Intervals.exists_of_contains h
  exact isWord_of_uncovered wordIntervals_checked.2.2.2.2 mem low high

/-- A blank is none. -/
lemma not_isWord_of_isBlank {c : Char} (h : isBlank c) : isWord c = false := by
  have check : ∀ i ∈ blankIntervals, (List.range (i.2 - i.1 + 1)).all fun k =>
      !wordIntervals.contains (i.1 + k) := by decide +kernel
  obtain ⟨i, mem, low, high⟩ := Intervals.exists_of_contains h
  have among : c.toNat - i.1 ∈ List.range (i.2 - i.1 + 1) := by
    rw [List.mem_range]
    omega
  have none := List.all_eq_true.1 (check i mem) _ among
  have place : i.1 + (c.toNat - i.1) = c.toNat := by omega
  rw [place, Bool.not_eq_true'] at none
  exact none

/-! ## Lower case -/

/-- Lower case is behind the capitals of ASCII, and never a surrogate. -/
lemma capitals_of_mem_lowerShifts : ∀ r ∈ lowerShifts,
    (90 < r.1 + r.2.2.2) ∧ (r.2.1 + r.2.2.2 < 0xD800 ∨
      0xDFFF < r.1 + r.2.2.2 ∧ r.2.1 + r.2.2.2 < 0x110000) := by
  decide +kernel

/-- Behind the capitals of ASCII nothing has another lower case in ASCII. -/
lemma toLower_of_lt {c : Char} (h : 90 < c.toNat) : c.toLower = c := by
  refine toLower_of_not_isUpper fun upper => ?_
  have high : c.val ≤ 'Z'.val := (of_decide_eq_true upper : c.val ≥ 'A'.val ∧ c.val ≤ 'Z'.val).2
  have top : ('Z'.val).toNat = 90 := rfl
  have value : c.val.toNat = c.toNat := rfl
  rw [UInt32.le_iff_toNat_le] at high
  omega

/-- Nor has what lower case gives. -/
lemma toLower_of_mem_lowerChar {c d : Char} (h : d ∈ lowerChar c) : d.toLower = d := by
  by_cases ascii : isAscii c
  · rw [(lowerChar_of_isAscii ascii).1, List.mem_singleton] at h
    rw [h, toLower_toLower_of_isAscii ascii]
  have large : 128 ≤ c.toNat := by simpa [isAscii] using ascii
  rw [lowerChar] at h
  split at h
  · rcases List.mem_cons.1 h with rfl | h
    · rfl
    · rw [List.mem_singleton.1 h]
      rfl
  · cases moved : lowerShifts.image? c.toNat with
    | none =>
      rw [moved] at h
      rw [List.mem_singleton.1 h]
      exact toLower_of_lt (by omega)
    | some m =>
      rw [moved] at h
      obtain ⟨r, mem, low, high, -, rfl⟩ := Shifts.image_eq_some moved
      obtain ⟨above, valid⟩ := capitals_of_mem_lowerShifts r mem
      have valid' : (c.toNat + r.2.2.2 : Int).toNat.isValidChar := by
        rcases valid with small | ⟨large', below⟩
        · exact .inl (by omega)
        · exact .inr ⟨by omega, by omega⟩
      rw [List.mem_singleton.1 h]
      refine toLower_of_lt ?_
      rw [toNat_ofNat_of_valid valid']
      omega

/-- Every character of a text in lower case is the lower case of one of the text, or a small sigma. -/
lemma exists_of_mem_lower {c : Char} {cs : List Char} (h : c ∈ lower cs) :
    c = 'ς' ∨ c = 'σ' ∨ ∃ d ∈ cs, c ∈ lowerChar d := by
  have key : ∀ before, c ∈ lowerFrom before cs → c = 'ς' ∨ c = 'σ' ∨ ∃ d ∈ cs, c ∈ lowerChar d := by
    clear h
    induction cs with
    | nil =>
      intro before h
      cases h
    | cons d cs ih =>
      have later (before : List Char) (h : c ∈ lowerFrom before cs) :
          c = 'ς' ∨ c = 'σ' ∨ ∃ e ∈ d :: cs, c ∈ lowerChar e :=
        (ih before h).imp_right (Or.imp_right fun ⟨e, mem, found⟩ => ⟨e, List.mem_cons_of_mem d mem, found⟩)
      intro before h
      rw [lowerFrom] at h
      split at h
      · rcases List.mem_cons.1 h with rfl | h
        · split
          · exact .inl rfl
          · exact .inr (.inl rfl)
        · exact later _ h
      · rcases List.mem_append.1 h with h | h
        · exact .inr (.inr ⟨d, List.mem_cons_self, h⟩)
        · exact later _ h
  exact key [] h

/-- Lower case takes no character away. -/
lemma length_le_length_lower (cs : List Char) : cs.length ≤ (lower cs).length := by
  have key : ∀ before, cs.length ≤ (lowerFrom before cs).length := by
    induction cs with
    | nil => exact fun _ => Nat.zero_le _
    | cons c cs ih =>
      have one : 1 ≤ (lowerChar c).length := by
        rw [lowerChar]
        split
        · decide
        · split <;> exact Nat.le_refl 1
      intro before
      have tail := ih (c :: before)
      rw [lowerFrom]
      split
      · exact Nat.succ_le_succ tail
      · rw [List.length_append, List.length_cons]
        omega
  exact key []

/-- A text in lower case has no ASCII capital. -/
lemma toLower_of_mem_lower {c : Char} {cs : List Char} (h : c ∈ lower cs) : c.toLower = c := by
  rcases exists_of_mem_lower h with rfl | rfl | ⟨d, -, found⟩
  · rfl
  · rfl
  · exact toLower_of_mem_lowerChar found

/-- So a text in lower case stays as it is. -/
lemma map_toLower_lower (cs : List Char) : (lower cs).map Char.toLower = lower cs := by
  have same : ∀ c ∈ lower cs, c.toLower = id c := fun c mem => toLower_of_mem_lower mem
  rw [List.map_congr_left same, List.map_id]

end Tenancy.Text
