import Tenancy.Proofs.Text.Folding

/-!
# Lower case once and for all

A text in lower case stays as it is when it is put into lower case again (`lower_lower`), and texts whose
letters differ in case have one lower case (`lower_congr`). Only the capital sigma has to be kept apart from
the small one: what becomes of it depends on its neighbours. Both rest on the tables of code points: no letter
becomes a capital, and letters that are moved to lower case count for the case of their neighbours as what they
are moved to.
-/

namespace Tenancy.Text

/-! ## Between the intervals of a table -/

/-- What lies between the intervals of a table, from a code point on. -/
def Intervals.gaps (start : Nat) : Intervals → Intervals
  | [] => [(start, 0x10FFFF)]
  | (lo, hi) :: rest =>
    if start < lo then (start, lo - 1) :: gaps (max start (hi + 1)) rest
    else gaps (max start (hi + 1)) rest

/-- No gap is in front of the start. -/
lemma Intervals.start_le_of_mem_gaps {t : Intervals} {start : Nat} {i : Nat × Nat}
    (mem : i ∈ t.gaps start) : start ≤ i.1 := by
  induction t generalizing start with
  | nil =>
    rw [List.mem_singleton.1 mem]
  | cons j rest ih =>
    obtain ⟨lo, hi⟩ := j
    have later (mem : i ∈ gaps (max start (hi + 1)) rest) : start ≤ i.1 :=
      (Nat.le_max_left _ _).trans (ih mem)
    rw [gaps] at mem
    split at mem
    · rcases List.mem_cons.1 mem with rfl | mem
      · exact Nat.le_refl start
      · exact later mem
    · exact later mem

/-- What lies in a gap lies in no interval. -/
lemma Intervals.contains_of_mem_gaps {t : Intervals} {start n : Nat} {i : Nat × Nat}
    (mem : i ∈ t.gaps start) (low : i.1 ≤ n) (high : n ≤ i.2) : t.contains n = false := by
  induction t generalizing start with
  | nil => rfl
  | cons j rest ih =>
    obtain ⟨lo, hi⟩ := j
    have later (mem : i ∈ gaps (max start (hi + 1)) rest) : contains ((lo, hi) :: rest) n = false := by
      have above : hi + 1 ≤ i.1 := (Nat.le_max_right _ _).trans (start_le_of_mem_gaps mem)
      rw [contains]
      split
      · rfl
      · rw [ih mem, Bool.or_false, decide_eq_false_iff_not]
        omega
    rw [gaps] at mem
    split at mem
    · next before =>
      rcases List.mem_cons.1 mem with rfl | mem
      · have small : n < lo := by
          dsimp only at high
          omega
        rw [contains, if_pos small]
      · exact later mem
    · exact later mem

/-- A number within a span that lies in the gaps is not found. -/
lemma Intervals.contains_eq_false_of_uncovered {t : Intervals} {spans : List (Nat × Nat)}
    (h : (t.gaps 0).uncovered spans = []) {s : Nat × Nat} (mem : s ∈ spans) {n : Nat} (low : s.1 ≤ n)
    (high : n ≤ s.2) : t.contains n = false := by
  obtain ⟨i, memi, first, last⟩ := exists_of_uncovered h mem
  exact contains_of_mem_gaps memi (first.trans low) (high.trans last)

/-! ## The table of lower case -/

/-- Where a run moves each of its spans to. -/
def imageSpans (r : Nat × Nat × Nat × Int) : List (Nat × Nat) :=
  (movedSpans r).map fun s => ((s.1 + r.2.2.2 : Int).toNat, (s.2 + r.2.2.2 : Int).toNat)

/-- All that has another lower case. -/
def capitalSpans : Intervals := lowerShifts.flatMap movedSpans

/-- All that is another's lower case. -/
def smallSpans : List (Nat × Nat) := (lowerShifts.flatMap imageSpans).insertionSort (·.1 ≤ ·.1)

/-- What has another lower case is no one's lower case. Both have case, and neither is passed over when the
case of a neighbour is decided. -/
lemma lowerShifts_checked :
    (capitalSpans.map Prod.fst).IsChain (· ≤ ·) ∧ (capitalSpans.gaps 0).uncovered smallSpans = [] ∧
      (casedIntervals.map Prod.fst).IsChain (· ≤ ·) ∧ casedIntervals.uncovered capitalSpans = [] ∧
      casedIntervals.uncovered smallSpans = [] ∧
      (caseIgnorableIntervals.gaps 0).uncovered capitalSpans = [] ∧
      (caseIgnorableIntervals.gaps 0).uncovered smallSpans = [] ∧
      ∀ r ∈ lowerShifts, r.2.1 + r.2.2.2 < 0x130 ∨ 0x130 < r.1 + r.2.2.2 := by
  decide +kernel

/-- Whether a code point counts for the case of its neighbours as a cased one. -/
def IsLetter (n : Nat) : Prop := casedIntervals.contains n = true ∧ caseIgnorableIntervals.contains n = false

/-- A capital and the small letter that is its lower case. -/
structure Capital (n m : Nat) : Prop where
  capital : IsLetter n
  small : IsLetter m
  stays : lowerShifts.image? m = none
  valid : m.isValidChar
  other : m ≠ 0x130

/-- A character that has another lower case is a capital. -/
lemma capital_of_image {n m : Nat} (moved : lowerShifts.image? n = some m) : Capital n m := by
  obtain ⟨chain, apart, cased, capitals, smalls, capitals', smalls', dotted⟩ := lowerShifts_checked
  obtain ⟨r, memr, low, high, even, rfl⟩ := Shifts.image_eq_some moved
  obtain ⟨s, mems, first, last⟩ := exists_of_moved low high even
  have capital : s ∈ capitalSpans := List.mem_flatMap.2 ⟨r, memr, mems⟩
  have small : ((s.1 + r.2.2.2 : Int).toNat, (s.2 + r.2.2.2 : Int).toNat) ∈ smallSpans := by
    rw [smallSpans, List.mem_insertionSort]
    refine List.mem_flatMap.2 ⟨r, memr, ?_⟩
    exact List.mem_map_of_mem mems
  have first' : (s.1 + r.2.2.2 : Int).toNat ≤ (n + r.2.2.2 : Int).toNat := by omega
  have last' : (n + r.2.2.2 : Int).toNat ≤ (s.2 + r.2.2.2 : Int).toNat := by omega
  refine ⟨⟨?_, ?_⟩, ⟨?_, ?_⟩, ?_, ?_, ?_⟩
  · exact Intervals.contains_of_uncovered cased capitals capital first last
  · exact Intervals.contains_eq_false_of_uncovered capitals' capital first last
  · exact Intervals.contains_of_uncovered cased smalls small first' last'
  · exact Intervals.contains_eq_false_of_uncovered smalls' small first' last'
  · rw [Option.eq_none_iff_forall_ne_some]
    intro l again
    obtain ⟨q, memq, low, high, even, -⟩ := Shifts.image_eq_some again
    obtain ⟨t, memt, first, last⟩ := exists_of_moved low high even
    have there := Intervals.contains_of_mem (List.isChain_iff_pairwise.1 chain)
      (List.mem_flatMap.2 ⟨q, memq, memt⟩) first last
    have notThere := Intervals.contains_eq_false_of_uncovered apart small first' last'
    rw [notThere] at there
    cases there
  · rcases (capitals_of_mem_lowerShifts r memr).2 with below | ⟨above, below⟩
    · exact .inl (by omega)
    · exact .inr ⟨by omega, by omega⟩
  · rcases dotted r memr with below | above
    · omega
    · omega

/-- The marks and letters that come of the dotted capital I and of the sigma are no capitals. -/
lemma image_of_marks : ∀ n ∈ [0x69, 0x307, 0x3C2, 0x3C3], lowerShifts.image? n = none := by
  have check : ∀ r ∈ lowerShifts, ∀ n ∈ [0x69, 0x307, 0x3C2, 0x3C3], r.1 ≤ n → n ≤ r.2.1 →
      (n - r.1) % r.2.2.1 ≠ 0 := by
    decide +kernel
  intro n mem
  rw [Option.eq_none_iff_forall_ne_some]
  intro m moved
  obtain ⟨r, memr, low, high, even, -⟩ := Shifts.image_eq_some moved
  exact check r memr n mem low high even

/-! ## Characters -/

/-- The ways in which a character is put into lower case: the dotted capital I becomes two characters, a
capital becomes a small letter, and everything else stays. -/
lemma lowerChar_cases (c : Char) :
    c = 'İ' ∨ (∃ d, lowerChar c = [d] ∧ Capital c.toNat d.toNat) ∨
      c ≠ 'İ' ∧ lowerShifts.image? c.toNat = none ∧ lowerChar c = [c] := by
  by_cases dotted : c = 'İ'
  · exact .inl dotted
  rw [lowerChar, if_neg dotted]
  cases moved : lowerShifts.image? c.toNat with
  | none => exact .inr (.inr ⟨dotted, rfl, rfl⟩)
  | some m =>
    have capital := capital_of_image moved
    refine .inr (.inl ⟨Char.ofNat m, rfl, ?_⟩)
    rwa [toNat_ofNat_of_valid capital.valid]

/-- A character that has no other lower case. -/
def IsLowered (c : Char) : Prop := lowerChar c = [c] ∧ c ≠ 'Σ'

/-- One that has none, but for the dotted capital, is in lower case. -/
lemma isLowered_of_image {c : Char} (dotted : c ≠ 'İ') (stays : lowerShifts.image? c.toNat = none) :
    IsLowered c := by
  refine ⟨?_, ?_⟩
  · rw [lowerChar, if_neg dotted, stays]
  · rintro rfl
    exact absurd stays (by decide)

/-- The lower case of a character has no other lower case. -/
lemma isLowered_of_mem_lowerChar {c d : Char} (h : d ∈ lowerChar c) : IsLowered d := by
  rcases lowerChar_cases c with rfl | ⟨e, eq, capital⟩ | ⟨dotted, stays, eq⟩
  · have two : d = 'i' ∨ d = '\u0307' := by simpa [lowerChar] using h
    rcases two with rfl | rfl
    · exact isLowered_of_image (by decide) (image_of_marks _ (by decide))
    · exact isLowered_of_image (by decide) (image_of_marks _ (by decide))
  · rw [eq] at h
    obtain rfl := List.mem_singleton.1 h
    refine isLowered_of_image ?_ capital.stays
    rintro rfl
    exact capital.other rfl
  · rw [eq] at h
    obtain rfl := List.mem_singleton.1 h
    exact isLowered_of_image dotted stays

/-- Lower case gives characters in lower case. -/
lemma isLowered_of_mem_lower {c : Char} {cs : List Char} (h : c ∈ lower cs) : IsLowered c := by
  rcases exists_of_mem_lower h with rfl | rfl | ⟨d, -, found⟩
  · exact isLowered_of_image (by decide) (image_of_marks _ (by decide))
  · exact isLowered_of_image (by decide) (image_of_marks _ (by decide))
  · exact isLowered_of_mem_lowerChar found

/-- Lower case is there once and for all. -/
theorem lower_lower (cs : List Char) : lower (lower cs) = lower cs := by
  have single : ∀ c ∈ lower cs, lowerChar c = [c.toLower] ∧ c ≠ 'Σ' := fun c mem => by
    rw [toLower_of_mem_lower mem]
    exact isLowered_of_mem_lower mem
  rw [lower_eq_map single, map_toLower_lower]

/-- Lower case stays as it is. -/
lemma lowerString_lowerString (s : String) : lowerString (lowerString s) = lowerString s := by
  rw [lowerString, lowerString, String.toList_ofList, lower_lower]

/-! ## Spellings -/

/-- Whether two characters are the same but for case. The capital sigma is no spelling of a small one: it is
written in two ways. -/
def SameLetter (c d : Char) : Prop := c = d ∨ lowerChar c = lowerChar d ∧ c ≠ 'Σ' ∧ d ≠ 'Σ'

/-- Characters with one lower case count alike for the case of their neighbours. -/
lemma case_of_lowerChar {c d : Char} (h : lowerChar c = lowerChar d) :
    isCased c = isCased d ∧ isCaseIgnorable c = isCaseIgnorable d := by
  have letters {n m : Nat} (hn : IsLetter n) (hm : IsLetter m) :
      casedIntervals.contains n = casedIntervals.contains m ∧
        caseIgnorableIntervals.contains n = caseIgnorableIntervals.contains m :=
    ⟨hn.1.trans hm.1.symm, hn.2.trans hm.2.symm⟩
  have two : (lowerChar 'İ').length = 2 := by decide
  rcases lowerChar_cases c with rfl | ⟨e, eq, capital⟩ | ⟨-, -, eq⟩
  · rcases lowerChar_cases d with rfl | ⟨e, eq, -⟩ | ⟨-, -, eq⟩
    · exact ⟨rfl, rfl⟩
    all_goals
      rw [h, eq] at two
      cases two
  · rcases lowerChar_cases d with rfl | ⟨e', eq', capital'⟩ | ⟨-, -, eq'⟩
    · rw [← h, eq] at two
      cases two
    · exact letters capital.capital capital'.capital
    · obtain rfl : e = d := List.singleton_inj.1 (eq.symm.trans (h.trans eq'))
      exact letters capital.capital capital.small
  · rcases lowerChar_cases d with rfl | ⟨e', eq', capital'⟩ | ⟨-, -, eq'⟩
    · rw [← h, eq] at two
      cases two
    · obtain rfl : c = e' := List.singleton_inj.1 (eq.symm.trans (h.trans eq'))
      exact letters capital'.small capital'.capital
    · obtain rfl : c = d := List.singleton_inj.1 (eq.symm.trans (h.trans eq'))
      exact ⟨rfl, rfl⟩

/-- The same letter is cased and ignored alike. -/
lemma SameLetter.case {c d : Char} (h : SameLetter c d) :
    isCased c = isCased d ∧ isCaseIgnorable c = isCaseIgnorable d := by
  rcases h with rfl | ⟨eq, -⟩
  · exact ⟨rfl, rfl⟩
  · exact case_of_lowerChar eq

/-- The first letter that counts is cased alike in texts of the same letters. -/
lemma casedFirst_congr {cs ds : List Char} (h : List.Forall₂ SameLetter cs ds) :
    casedFirst cs = casedFirst ds := by
  unfold casedFirst
  induction h with
  | nil => rfl
  | cons head _ ih =>
    obtain ⟨cased, ignorable⟩ := head.case
    rw [List.dropWhile_cons, List.dropWhile_cons, ignorable]
    split
    · exact ih
    · rw [List.head?_cons, List.head?_cons, Option.any_some, Option.any_some, cased]

/-- Texts that are the same but for the case of letters have one lower case. -/
theorem lower_congr {cs ds : List Char} (h : List.Forall₂ SameLetter cs ds) : lower cs = lower ds := by
  have key {before before' : List Char} (hb : List.Forall₂ SameLetter before before') :
      lowerFrom before cs = lowerFrom before' ds := by
    induction h generalizing before before' with
    | nil => rfl
    | @cons c d cs ds head tail ih =>
      have later := ih (List.Forall₂.cons head hb)
      rw [lowerFrom, lowerFrom, later]
      rcases head with rfl | ⟨eq, capital, capital'⟩
      · rw [casedFirst_congr hb, casedFirst_congr tail]
      · rw [if_neg capital, if_neg capital', eq]
  exact key .nil

end Tenancy.Text
