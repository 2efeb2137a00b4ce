/-!
# The calendar

Days of the proleptic Gregorian calendar, counted from 1970-01-01. Weeks are reckoned from
Monday or Sunday, or as ISO weeks, of which the first of a year holds January 4.
-/

namespace Telemetry.Calendar

/-- A date by year, month and day of the month. -/
structure Date where
  year : Int
  month : Nat
  day : Nat
  deriving DecidableEq, Repr

def isLeap (year : Int) : Bool := year % 4 = 0 && (year % 100 ≠ 0 || year % 400 = 0)

def daysInYear (year : Int) : Nat := if isLeap year then 366 else 365

def daysInMonth (year : Int) (month : Nat) : Nat :=
  match month with
  | 2 => if isLeap year then 29 else 28
  | 4 | 6 | 9 | 11 => 30
  | _ => 31

/-- The days before January 1 of a year. -/
def yearStart (year : Int) : Int :=
  let y := year - 1
  365 * y + y / 4 - y / 100 + y / 400 - 719162

/-- The days of a year before the first of a month. -/
def monthStart (year : Int) (month : Nat) : Nat :=
  (List.range (month - 1)).foldl (fun n m => n + daysInMonth year (m + 1)) 0

def dayNumber (d : Date) : Int := yearStart d.year + monthStart d.year d.month + d.day - 1

/-- The year of a day: a first guess that is at most one too great or too small. -/
def yearOf (n : Int) : Int :=
  let guess := (n + 719162) * 400 / 146097 + 1
  if n < yearStart guess then guess - 1
  else if yearStart (guess + 1) ≤ n then guess + 1
  else guess

/-- The day of its year, from 1 on. -/
def ordinal (n : Int) : Nat := (n - yearStart (yearOf n)).toNat + 1

/-- The month in which the days of a year before it have not yet reached `left`. -/
def monthOf (year : Int) : (months : List Nat) → (left : Nat) → Nat × Nat
  | [], left => (12, left + 1)
  | m :: rest, left =>
    if left < daysInMonth year m then (m, left + 1)
    else monthOf year rest (left - daysInMonth year m)

def date (n : Int) : Date :=
  let year := yearOf n
  let (month, day) := monthOf year [1, 2, 3, 4, 5, 6, 7, 8, 9, 10, 11, 12] (ordinal n - 1)
  ⟨year, month, day⟩

/-- Monday is 0. -/
def weekday (n : Int) : Nat := ((n + 3) % 7).toNat

/-- The days from weekday `first` to weekday `d`. -/
def daysSince (d first : Nat) : Nat := (d + 7 - first) % 7

/-- The week of the year when weeks begin on `first`; days before the first such day are in
week 0. -/
def weekFrom (first : Nat) (n : Int) : Nat :=
  (ordinal n + 6 - daysSince (weekday n) first) / 7

/-- The Monday of the first ISO week of a year. -/
def isoYearStart (year : Int) : Int :=
  let january4 := yearStart year + 3
  january4 - weekday january4

/-- The ISO year and week of a day. -/
def isoWeek (n : Int) : Int × Nat :=
  let year := yearOf n
  let year :=
    if n < isoYearStart year then year - 1
    else if isoYearStart (year + 1) ≤ n then year + 1
    else year
  (year, ((n - isoYearStart year) / 7).toNat + 1)

def isoWeeks (year : Int) : Nat := ((isoYearStart (year + 1) - isoYearStart year) / 7).toNat

/-- The years that dates are limited to. -/
def firstYear : Int := -262143

def lastYear : Int := 262142

def inRange (year : Int) : Bool := firstYear ≤ year && year ≤ lastYear

/-- The day of a date that exists. -/
def ofDate? (year : Int) (month day : Nat) : Option Int :=
  if inRange year && 1 ≤ month && month ≤ 12 && 1 ≤ day && day ≤ daysInMonth year month then
    some (dayNumber ⟨year, month, day⟩)
  else none

def ofOrdinal? (year : Int) (ordinal : Nat) : Option Int :=
  if inRange year && 1 ≤ ordinal && ordinal ≤ daysInYear year then
    some (yearStart year + ordinal - 1)
  else none

def ofIsoWeek? (year : Int) (week weekday : Nat) : Option Int :=
  let n := isoYearStart year + 7 * ((week : Int) - 1) + weekday
  if 1 ≤ week && week ≤ isoWeeks year && inRange (yearOf n) then some n else none

end Telemetry.Calendar
