import Mathlib.Tactic.Lemma
import Tenancy.Calendar

/-!
# Days that can be told

A date can be told within bounds on its year, so a day can be told from the first day of the first such
year to the last day of the last one (`Date.isTellable_ofDays`). Where a year ends in the count of days
says `Date.year_ofDays_le_iff`: the years of an era are counted from March on.
-/

namespace Tenancy

namespace Date

/-- The first of January of the year -262143, counted from the first day of the year 2000. -/
def firstDay : Int := -96476249

/-- The last day of the year 262142. -/
def lastDay : Int := 95015279

/-- The year of a day inside of four hundred years that start in March. -/
def yearOfEra (d : Nat) : Nat := (d - d / 1460 + d / 36524 - d / 146096) / 365

/-- The year of a day, with its leap days left out. -/
lemma yearOfEra_bounds (d : Nat) :
    365 * yearOfEra d ≤ d - d / 1460 + d / 36524 - d / 146096 ∧
      d - d / 1460 + d / 36524 - d / 146096 < 365 * yearOfEra d + 365 := by
  unfold yearOfEra
  omega

/-- An era has 400 years. -/
lemma yearOfEra_lt {d : Nat} (small : d < 146097) : yearOfEra d < 400 := by
  unfold yearOfEra
  omega

/-- A day lies at most as far behind the start of its year as a leap year is long. -/
lemma dayOfYear_le {d : Nat} (small : d < 146097) :
    d ≤ 365 * yearOfEra d + yearOfEra d / 4 - yearOfEra d / 100 + 366 := by
  have bounds := yearOfEra_bounds d
  have lt := yearOfEra_lt small
  generalize yearOfEra d = y at *
  have quarters : d / 1460 ≤ y / 4 + 1 := by omega
  have centuries : y / 100 ≤ d / 36524 := by
    obtain none | one | two | three : y / 100 = 0 ∨ y / 100 = 1 ∨ y / 100 = 2 ∨ y / 100 = 3 := by omega
    all_goals omega
  omega

/-- The year of a day is the one that started in March, or the next one from January on. -/
lemma exists_year_ofDays (days : Int) :
    ∃ (era : Int) (d : Nat), d < 146097 ∧ days + epoch = era * 146097 + d ∧
      let dayOfYear := d - (365 * yearOfEra d + yearOfEra d / 4 - yearOfEra d / 100)
      let year := era * 400 + yearOfEra d
      ((ofDays days).year = year ∨ (ofDays days).year = year + 1) ∧
        ((ofDays days).year = year + 1 ↔ 306 ≤ dayOfYear) := by
  let n := days + epoch
  have rest := Int.emod_nonneg n (show (146097 : Int) ≠ 0 by decide)
  have bound := Int.emod_lt_of_pos n (show (0 : Int) < 146097 by decide)
  have split := Int.mul_ediv_add_emod n 146097
  have era : n.fdiv daysPerEra = n / 146097 := Int.fdiv_eq_ediv_of_nonneg n (by decide)
  have day : (n - n / 146097 * 146097).toNat = (n % 146097).toNat := by omega
  have small : (n % 146097).toNat < 146097 := by omega
  refine ⟨n / 146097, (n % 146097).toNat, small, by omega, ?_⟩
  unfold ofDays
  dsimp only
  rw [show (days + epoch).fdiv daysPerEra = n / 146097 from era,
    show (days + epoch - n / 146097 * daysPerEra).toNat = (n % 146097).toNat from day]
  generalize (n % 146097).toNat = d at small ⊢
  have le := dayOfYear_le small
  have unfolded : (d - d / 1460 + d / 36524 - d / 146096) / 365 = yearOfEra d := rfl
  simp only [unfolded]
  have few : d - (365 * yearOfEra d + yearOfEra d / 4 - yearOfEra d / 100) ≤ 366 := by omega
  generalize d - (365 * yearOfEra d + yearOfEra d / 4 - yearOfEra d / 100) = dayOfYear at few ⊢
  -- The year changes with the eleventh month from March on.
  split <;> split at * <;> omega

/-- A year of an era ends before the three hundred and seventh day that is counted from March on. -/
lemma year_ofDays_le_iff (days era : Int) {y : Nat} (small : y < 400) :
    (ofDays days).year ≤ era * 400 + y ↔
      days + epoch < era * 146097 + (365 * y + y / 4 - y / 100 + 306 : Nat) := by
  obtain ⟨e, d, hd, split, near, next⟩ := exists_year_ofDays days
  have bounds := yearOfEra_bounds d
  have lt := yearOfEra_lt hd
  have le := dayOfYear_le hd
  rw [split]
  generalize (ofDays days).year = year at *
  generalize yearOfEra d = z at *
  -- The eras are compared first, then the years that started in March, then the days of one year.
  rcases Int.lt_trichotomy e era with before | rfl | after
  · omega
  · rcases Nat.lt_trichotomy z y with before | rfl | after
    · have : d < 365 * y + y / 4 - y / 100 + 306 := by omega
      omega
    · omega
    · have : 365 * y + y / 4 - y / 100 + 306 ≤ d := by omega
      omega
  · omega

/-- The days that can be told. -/
theorem isTellable_ofDays {days : Int} :
    (ofDays days).isTellable = true ↔ firstDay ≤ days ∧ days ≤ lastDay := by
  have first := year_ofDays_le_iff days (-656) (y := 256) (by decide)
  have last := year_ofDays_le_iff days 655 (y := 142) (by decide)
  simp only [isTellable, decide_eq_true_eq, epoch, firstDay, lastDay] at *
  omega

example : ofDays firstDay = ⟨-262143, 1, 1⟩ ∧ ofDays lastDay = ⟨262142, 12, 31⟩ := by decide

end Date

namespace Moment

/-- The date of a moment can be told exactly within the calendar. -/
lemma isTellable_date {m : Moment} :
    m.date.isTellable = true ↔
      Date.firstDay * perDay ≤ m.microseconds ∧ m.microseconds < (Date.lastDay + 1) * perDay := by
  have day : m.microseconds.fdiv perDay = m.microseconds / perDay := Int.fdiv_eq_ediv_of_nonneg _ (by decide)
  rw [date, Date.isTellable_ofDays, day]
  simp only [perDay]
  omega

end Moment

end Tenancy
