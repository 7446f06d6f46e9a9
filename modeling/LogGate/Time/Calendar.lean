/-!
# The civil calendar

The Gregorian calendar, carried on into all years past and to come: year 0 comes before year 1, and
negative years before that. Days are counted from 1 January 1970. `dayNumber` numbers the days of
the calendar and `Date.ofDayNumber` finds the day with a number again. Both count years from March,
so that the day that leap years add is the last one of its year.
-/

namespace LogGate.Time

/-- A day of the calendar. -/
structure Date where
  year : Int
  month : Nat
  day : Nat
  deriving DecidableEq, Repr

/-- Every fourth year is a leap year, save three out of four full centuries. -/
def isLeapYear (year : Int) : Bool := year % 4 == 0 && (year % 100 != 0 || year % 400 == 0)

/-- The number of days of a month, zero where there is no such month. -/
def daysInMonth (year : Int) (month : Nat) : Nat :=
  match month with
  | 1 | 3 | 5 | 7 | 8 | 10 | 12 => 31
  | 4 | 6 | 9 | 11 => 30
  | 2 => if isLeapYear year then 29 else 28
  | _ => 0

/-- Whether the calendar has a date. -/
def Date.isValid (d : Date) : Bool := 1 <= d.day && d.day <= daysInMonth d.year d.month

/-- The number of days from 1 March of year 0 to 1 March of a year. -/
def daysBeforeMarch (year : Int) : Int := 365 * year + year / 4 - year / 100 + year / 400

/-- The number of days from 1 March to the first of a month, for months counted from March. -/
def daysBeforeMonth (sinceMarch : Nat) : Nat := (153 * sinceMarch + 2) / 5

/-- The day number of 1 March of year 0, without its sign. -/
def marchOfYearZero : Int := 719468

/-- The number of a day, counted from 1 January 1970. -/
def Date.dayNumber (d : Date) : Int :=
  let year := if d.month ≤ 2 then d.year - 1 else d.year
  daysBeforeMarch year + daysBeforeMonth ((d.month + 9) % 12) + d.day - 1 - marchOfYearZero

/-- The day that has a number. Within each cycle of 400 years, or 146097 days, the year is found
from the day's place in the cycle, then the month from its place in the year. -/
def Date.ofDayNumber (n : Int) : Date :=
  let days := n + marchOfYearZero
  let cycle := days / 146097
  let inCycle := (days % 146097).toNat
  let yearInCycle := (inCycle - inCycle / 1460 + inCycle / 36524 - inCycle / 146096) / 365
  let inYear := inCycle - (365 * yearInCycle + yearInCycle / 4 - yearInCycle / 100)
  let sinceMarch := (5 * inYear + 2) / 153
  let month := if sinceMarch < 10 then sinceMarch + 3 else sinceMarch - 9
  let year := 400 * cycle + yearInCycle + (if month ≤ 2 then 1 else 0)
  ⟨year, month, inYear - daysBeforeMonth sinceMarch + 1⟩

end LogGate.Time
