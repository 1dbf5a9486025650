/-
  Purse.Calendar

  The proleptic Gregorian calendar, with a year zero.  Days are counted from
  1970-01-01.  `dayNumber` goes from a date to its day by counting whole years
  and months; `Date.ofDay` goes back by an estimate of the year that is off
  by at most one.
-/

namespace Purse

/-- True for a year with a 29th of February. -/
def isLeapYear (year : Int) : Bool :=
  year % 4 = 0 && (year % 100 ≠ 0 || year % 400 = 0)

/-- The lengths of the months of a year. -/
def monthLengths (year : Int) : List Nat :=
  [31, if isLeapYear year then 29 else 28, 31, 30, 31, 30, 31, 31, 30, 31, 30, 31]

/-- Days from 0001-01-01 to the first day of a year. -/
def daysBeforeYear (year : Int) : Int :=
  365 * (year - 1) + (year - 1) / 4 - (year - 1) / 100 + (year - 1) / 400

/-- Days from 0001-01-01 to 1970-01-01. -/
def epochDay : Int := daysBeforeYear 1970

/-- A date of the calendar; months and days count from one. -/
structure Date where
  year : Int
  month : Nat
  day : Nat
  deriving DecidableEq, Repr

namespace Date

/-- The first and the last year that an instant can lie in. -/
def firstYear : Int := -262143
/-- The last year that an instant can lie in. -/
def lastYear : Int := 262142

/-- The number of days in the months before `month`. -/
def daysBeforeMonth (year : Int) (month : Nat) : Nat :=
  ((monthLengths year).take (month - 1)).foldl (· + ·) 0

/-- True for a month from 1 to 12 and a day that the month has. -/
def exists? (d : Date) : Bool :=
  match d.month with
  | 0 => false
  | m + 1 => match (monthLengths d.year)[m]? with
    | some length => 1 ≤ d.day && d.day ≤ length
    | none => false

/-- The day that a date falls on, counted from 1970-01-01. -/
def dayNumber (d : Date) : Int :=
  daysBeforeYear d.year - epochDay + daysBeforeMonth d.year d.month + d.day - 1

/-- The year that contains a day counted from 0001-01-01. -/
def yearOf (day : Int) : Int :=
  let guess := day * 400 / 146097 + 1
  if day < daysBeforeYear guess then guess - 1
  else if daysBeforeYear (guess + 1) ≤ day then guess + 1
  else guess

/-- Goes through months of the given lengths, of which the first has number `month`, and
    yields the month and the day in it of the `n`th day, counted from zero. -/
def monthAndDay (month : Nat) : List Nat → Nat → Nat × Nat
  | [], n => (month, n + 1)
  | length :: lengths, n =>
      if n < length then (month, n + 1) else monthAndDay (month + 1) lengths (n - length)

/-- The date of a day counted from 1970-01-01. -/
def ofDay (day : Int) : Date :=
  let fromYearOne := day + epochDay
  let year := yearOf fromYearOne
  let (month, dayOfMonth) :=
    monthAndDay 1 (monthLengths year) (fromYearOne - daysBeforeYear year).toNat
  ⟨year, month, dayOfMonth⟩

end Date

end Purse
