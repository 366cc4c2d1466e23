/-!
# The calendar

* `Date` : a day of the proleptic Gregorian calendar, checked by `Date.isValid`;
* `Date.ordinal`, `Date.ofOrdinal` : days counted from 0 for 1 January of year 1;
* `Date.ofWeek?` : the day that a year, a week and a weekday of the week calendar name.
-/

namespace AccountSecurity

/-- A year, a month and a day of the month. -/
structure Date where
  year : Nat
  month : Nat
  day : Nat
deriving DecidableEq, Repr

namespace Date

/-- The last year that a date may have. -/
def maxYear : Nat := 9999

def isLeap (year : Nat) : Bool := year % 4 == 0 && (year % 100 != 0 || year % 400 == 0)

/-- The lengths of the months of a year. -/
def monthLengths (year : Nat) : List Nat :=
  [31, if isLeap year then 29 else 28, 31, 30, 31, 30, 31, 31, 30, 31, 30, 31]

/-- The date exists: its year lies in 1..9999, its month in 1..12 and its day in the month. -/
def isValid (d : Date) : Bool :=
  1 ≤ d.year && d.year ≤ maxYear && 1 ≤ d.month && 1 ≤ d.day &&
    match (monthLengths d.year)[d.month - 1]? with
    | some length => d.day ≤ length
    | none => false

/-- Days before 1 January of a year, which is at least 1. -/
def daysBeforeYear (year : Nat) : Nat :=
  let y := year - 1
  365 * y + y / 4 - y / 100 + y / 400

/-- The number of days from 1 January of year 1. -/
def ordinal (d : Date) : Nat :=
  daysBeforeYear d.year + ((monthLengths d.year).take (d.month - 1)).foldl (· + ·) 0 + (d.day - 1)

/-- The year in which a day lies, from cycles of 400, 100, 4 and 1 years. -/
def yearOfOrdinal (n : Nat) : Nat :=
  let inEra := n % 146097
  let century := min 3 (inEra / 36524)
  let inCentury := inEra - 36524 * century
  let inFour := inCentury % 1461
  400 * (n / 146097) + 100 * century + 4 * (inCentury / 1461) + min 3 (inFour / 365) + 1

/-- The month and the day of a day of the year, both counted from zero. -/
def monthAndDay : List Nat → Nat → Nat × Nat
  | [], n => (0, n)
  | length :: rest, n =>
    if n < length then (0, n)
    else
      let (month, day) := monthAndDay rest (n - length)
      (month + 1, day)

/-- The date of a day, counted from 0 for 1 January of year 1. -/
def ofOrdinal (n : Nat) : Date :=
  let year := yearOfOrdinal n
  let (month, day) := monthAndDay (monthLengths year) (n - daysBeforeYear year)
  ⟨year, month + 1, day + 1⟩

/-- The number of days that a date can have. -/
def dayCount : Nat := daysBeforeYear (maxYear + 1)

/-! ## The week calendar -/

/-- The weekday of 1 January, counted from zero for Monday. -/
def firstWeekday (year : Nat) : Nat := daysBeforeYear year % 7

/-- The year has a week 53: it begins on a Thursday, or is a leap year that begins on a Wednesday. -/
def hasLongWeeks (year : Nat) : Bool :=
  firstWeekday year == 3 || (firstWeekday year == 2 && isLeap year)

/-- The Monday of week 1, the first week with at least four days in the year. It may lie before
the first day that is counted. -/
def firstMonday (year : Nat) : Int :=
  let monday : Int := (daysBeforeYear year : Int) - firstWeekday year
  if 3 < firstWeekday year then monday + 7 else monday

/-- The year has the week, and the week has the day (1 to 7). -/
def isWeekday (year week weekday : Nat) : Bool :=
  1 ≤ week && (week ≤ 52 || (week == 53 && hasLongWeeks year)) && 1 ≤ weekday && weekday ≤ 7

/-- The date of a weekday in a week of a year, if it is a date of the calendar. -/
def ofWeek? (year week weekday : Nat) : Option Date :=
  if 1 ≤ year ∧ year ≤ maxYear ∧ isWeekday year week weekday then
    let n := firstMonday year + (7 * (week - 1) + (weekday - 1) : Nat)
    if 0 ≤ n ∧ n < dayCount then some (ofOrdinal n.toNat) else none
  else none

end Date

end AccountSecurity
