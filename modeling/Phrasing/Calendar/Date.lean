/-!
# Calendar dates

Dates of the Gregorian calendar in the years 1 to 9999.  A `Date` carries the proof that its day
exists.  Days are also counted from 1 January of the year 1, which is day 1 and a Monday; the count
serves the comparison of instants and dates given by week and weekday.
-/

namespace Phrasing.Calendar

/-- A leap year. -/
def isLeap (year : Nat) : Bool :=
  year % 4 == 0 && (year % 100 != 0 || year % 400 == 0)

/-- The number of days of a month. -/
def daysInMonth (year month : Nat) : Nat :=
  if month = 2 then (if isLeap year then 29 else 28)
  else if month = 4 ∨ month = 6 ∨ month = 9 ∨ month = 11 then 30
  else 31

/-- The days of all years before a year. -/
def daysBeforeYear (year : Nat) : Nat :=
  let y := year - 1
  365 * y + y / 4 - y / 100 + y / 400

/-- The days of a year before a month. -/
def daysBeforeMonth (year month : Nat) : Nat :=
  (List.range (month - 1)).foldl (fun days m => days + daysInMonth year (m + 1)) 0

/-- Year, month and day name a day that exists. -/
def IsDay (year month day : Nat) : Prop :=
  (1 ≤ year ∧ year ≤ 9999) ∧ (1 ≤ month ∧ month ≤ 12) ∧ 1 ≤ day ∧ day ≤ daysInMonth year month

instance (year month day : Nat) : Decidable (IsDay year month day) :=
  inferInstanceAs (Decidable (_ ∧ _ ∧ _))

/-- A date. -/
structure Date where
  year : Nat
  month : Nat
  day : Nat
  isDay : IsDay year month day
  deriving DecidableEq, Repr

namespace Date

/-- The date with these numbers, if it exists. -/
def of? (year month day : Nat) : Option Date :=
  if h : IsDay year month day then some ⟨year, month, day, h⟩ else none

/-- The number of a date in the count of days. -/
def ordinal (d : Date) : Nat :=
  daysBeforeYear d.year + daysBeforeMonth d.year d.month + d.day

end Date

/-- Year, month and day of the `n`-th day of a year; `month` is the first month still to be passed. -/
def monthAndDay (year : Nat) : (months : Nat) → (month n : Nat) → Nat × Nat
  | 0, month, n => (month, n)
  | months + 1, month, n =>
    if n ≤ daysInMonth year month then (month, n)
    else monthAndDay year months (month + 1) (n - daysInMonth year month)

/-- Year, month and day of a day near the start or the end of `year`, by its number in the count. -/
def ofOrdinalNear (year ordinal : Nat) : Nat × Nat × Nat :=
  let year :=
    if ordinal ≤ daysBeforeYear year then year - 1
    else if daysBeforeYear (year + 1) < ordinal then year + 1
    else year
  (year, monthAndDay year 11 1 (ordinal - daysBeforeYear year))

/-- The weekday of 1 January, with Monday as 0. -/
def firstWeekday (year : Nat) : Nat :=
  daysBeforeYear year % 7

/-- A year with 53 weeks starts on a Thursday, or on a Wednesday if it is a leap year. -/
def hasWeek53 (year : Nat) : Bool :=
  firstWeekday year == 3 || (firstWeekday year == 2 && isLeap year)

/-- Year, month and day of a date given by year, week and weekday (Monday as 1).  The first week is the
one with the first Thursday; the year may be the one before or after, and even 10000.  The weeks of the
year 0 lie before the first day and so in no month. -/
def ofWeek? (year week weekday : Nat) : Option (Nat × Nat × Nat) :=
  if week = 0 ∨ 53 < week ∨ (week = 53 ∧ ¬ hasWeek53 year) ∨ weekday = 0 ∨ 7 < weekday then none
  else if year = 0 then some (1, 0, 0)
  else
    -- The Monday of the first week lies up to three days before or after 1 January.
    let first := firstWeekday year
    let monday := if first ≤ 3 then daysBeforeYear year + 1 - first else daysBeforeYear year + 8 - first
    some (ofOrdinalNear year (monday + (week - 1) * 7 + (weekday - 1)))

end Phrasing.Calendar
