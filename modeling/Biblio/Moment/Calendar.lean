/-!
# The calendar

Days are counted from 1 January 1970 in the Gregorian calendar, which is taken to hold at all
times.  Inside, years begin in March, so that a leap day is the last day of its year.

* `Date.toDays` and `Date.ofDays` go from one to the other.
* `Date.valid` says which dates exist.
-/

set_option autoImplicit false

namespace Biblio

/-- A year, a month from 1 to 12 and a day from 1 to 31. -/
structure Date where
  year : Int
  month : Nat
  day : Nat
  deriving DecidableEq, Repr

namespace Date

/-- A leap year of the Gregorian calendar. -/
def isLeap (year : Int) : Bool := year % 4 == 0 && (year % 100 != 0 || year % 400 == 0)

/-- The days of a month. -/
def daysInMonth (year : Int) (month : Nat) : Nat :=
  if month = 2 then (if isLeap year then 29 else 28)
  else if month = 4 ∨ month = 6 ∨ month = 9 ∨ month = 11 then 30
  else 31

/-- The first and the last year that are counted. -/
def leastYear : Int := -262143

/-- The last year that is counted. -/
def greatestYear : Int := 262142

/-- Whether the date exists and its year is counted. -/
def valid (d : Date) : Bool :=
  leastYear ≤ d.year && d.year ≤ greatestYear && 1 ≤ d.month && d.month ≤ 12 && 1 ≤ d.day &&
    d.day ≤ daysInMonth d.year d.month

/-- The days of the 400 years after which the calendar repeats itself. -/
def cycleDays : Int := 146097

/-- The days from 1 March of the year 0 to the epoch. -/
def epochShift : Int := 719468

/-- The days from the first of March to the first of the `m`-th month after it. -/
def monthStart (m : Int) : Int := (153 * m + 2) / 5

/-- The number of days from the epoch to the date. -/
def toDays (d : Date) : Int :=
  let m : Int := ((d.month : Int) + 9) % 12
  let y : Int := if d.month ≤ 2 then d.year - 1 else d.year
  let cycle := y / 400
  let yearOfCycle := y % 400
  let dayOfYear := monthStart m + d.day - 1
  cycle * cycleDays + yearOfCycle * 365 + yearOfCycle / 4 - yearOfCycle / 100 + dayOfYear -
    epochShift

/-- A day as it is counted inside: the cycle of 400 years, the century in it, the leap cycle of four
years in that, the year in that, and the day of the year that begins in March. -/
structure Place where
  cycle : Int
  century : Int
  leapCycle : Int
  year : Int
  day : Int

/-- The place of a day that is counted from 1 March of the year 0.  The last century of a cycle and
the last year of a leap cycle have a day more. -/
def place (z : Int) : Place :=
  let dayOfCycle := z % cycleDays
  let century := min (dayOfCycle / 36524) 3
  let dayOfCentury := dayOfCycle - 36524 * century
  let leapCycle := dayOfCentury / 1461
  let dayOfLeapCycle := dayOfCentury - 1461 * leapCycle
  let year := min (dayOfLeapCycle / 365) 3
  ⟨z / cycleDays, century, leapCycle, year, dayOfLeapCycle - 365 * year⟩

/-- The year in which the year of a place begins. -/
def Place.marchYear (p : Place) : Int := p.cycle * 400 + p.century * 100 + p.leapCycle * 4 + p.year

/-- The date of a place. -/
def Place.date (p : Place) : Date :=
  let m := (5 * p.day + 2) / 153
  let month := if m < 10 then m + 3 else m - 9
  ⟨if month ≤ 2 then p.marchYear + 1 else p.marchYear, month.toNat,
    (p.day - monthStart m + 1).toNat⟩

/-- The date a number of days after the epoch. -/
def ofDays (days : Int) : Date := (place (days + epochShift)).date

end Date
end Biblio
