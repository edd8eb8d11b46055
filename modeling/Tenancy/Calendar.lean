/-!
# Dates and times

Days are counted from the first day of the year 2000 and read in the Gregorian calendar, which is
taken to hold for all time. A year starts in March for counting, so that a leap day is its last.
-/

namespace Tenancy

/-- A day of the calendar. -/
structure Date where
  year : Int
  month : Nat
  day : Nat
  deriving DecidableEq, Repr

namespace Date

/-- How many days four hundred years have. -/
def daysPerEra : Int := 146097

/-- The first day of the year 2000, counted from the first of March of the year 0. -/
def epoch : Int := 730425

/-- The date of a day, counted from the first day of the year 2000. -/
def ofDays (days : Int) : Date :=
  let n := days + epoch
  let era := n.fdiv daysPerEra
  let dayOfEra := (n - era * daysPerEra).toNat
  let yearOfEra := (dayOfEra - dayOfEra / 1460 + dayOfEra / 36524 - dayOfEra / 146096) / 365
  let dayOfYear := dayOfEra - (365 * yearOfEra + yearOfEra / 4 - yearOfEra / 100)
  let marchMonth := (5 * dayOfYear + 2) / 153
  let month := if marchMonth < 10 then marchMonth + 3 else marchMonth - 9
  let year := era * 400 + yearOfEra
  ⟨if month ≤ 2 then year + 1 else year, month, dayOfYear - (153 * marchMonth + 2) / 5 + 1⟩

/-- Whether a date is one that can be told: its year lies within some 262,000 years. -/
def isTellable (d : Date) : Bool := -262143 ≤ d.year ∧ d.year ≤ 262142

/-- A number with at least `width` digits. -/
def padded (width n : Nat) : String :=
  let digits := Nat.toDigits 10 n
  String.ofList (List.replicate (width - digits.length) '0' ++ digits)

/-- The year with four digits; with a sign where four digits do not hold it. -/
def yearText (year : Int) : String :=
  let digits := padded 4 year.natAbs
  if year < 0 then "-" ++ digits else if 9999 < year then "+" ++ digits else digits

/-- A date as text: year, month and day. -/
def text (d : Date) : String := s!"{yearText d.year}-{padded 2 d.month}-{padded 2 d.day}"

end Date

/-- A time of the calendar, in microseconds from the start of the year 2000. -/
structure Moment where
  microseconds : Int
  deriving DecidableEq, Repr

namespace Moment

/-- How many microseconds a day has. -/
def perDay : Int := 86400000000

/-- The date of a time. -/
def date (m : Moment) : Date := .ofDays (m.microseconds.fdiv perDay)

/-- A time as text: the date, the time of day, and three or six digits of the second unless they are
zero. -/
def text (m : Moment) : String :=
  let ofDay := (m.microseconds - m.microseconds.fdiv perDay * perDay).toNat
  let seconds := ofDay / 1000000
  let rest := ofDay % 1000000
  let fraction :=
    if rest = 0 then ""
    else if rest % 1000 = 0 then "." ++ Date.padded 3 (rest / 1000)
    else "." ++ Date.padded 6 rest
  let two (n : Nat) : String := Date.padded 2 n
  s!"{m.date.text} {two (seconds / 3600)}:{two (seconds / 60 % 60)}:{two (seconds % 60)}" ++ fraction

end Moment
end Tenancy
