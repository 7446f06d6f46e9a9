import LogGate.Text.Integer
import LogGate.Time.Calendar

/-!
# Instants

An instant of universal time, to the nanosecond: a day, a second of that day, and nanoseconds. A
leap second has no number of its own. It is the second before it, the last of a minute, with a
thousand million nanoseconds or more, and so it stays apart from the minute that follows. The days
run over the years from -262143 to 262142.

Left out are times that have so many nanoseconds after another second than the last of a minute. A
time comes to that only if its nanoseconds are set by hand: the clock gives none, and none is read
from a document.

An instant is written in universal time with the shortest exact fraction of 0, 3, 6 or 9 digits
(`Instant.render`); a clock shows it on a twelve-hour dial (`Instant.clock`). Equal instants are
written alike, since both texts are functions of the instant.
-/

namespace LogGate.Time

/-- The first day that an instant may lie on. -/
def firstDay : Int := (Date.mk (-262143) 1 1).dayNumber

/-- The last day that an instant may lie on. -/
def lastDay : Int := (Date.mk 262142 12 31).dayNumber

/-- An instant of universal time, with a leap second only at the end of a minute. -/
structure Instant where
  /-- The day, counted from 1 January 1970. -/
  day : Int
  /-- The second of the day, without leap seconds. -/
  second : Nat
  /-- The nanoseconds into the second, and 10^9 or more within a leap second after it. -/
  nano : Nat
  first_le : firstDay ≤ day
  le_last : day ≤ lastDay
  second_lt : second < 86400
  nano_lt : nano < 2_000_000_000
  /-- A restriction: leap fractions after other seconds are left out. -/
  leap : nano < 1_000_000_000 ∨ second % 60 = 59
  deriving DecidableEq, Repr

namespace Instant

/-- The start of 1 January 1970. -/
def epoch : Instant where
  day := 0
  second := 0
  nano := 0
  first_le := by decide
  le_last := by decide
  second_lt := by decide
  nano_lt := by decide
  leap := by decide

instance : Inhabited Instant := ⟨epoch⟩

/-- The date of an instant. -/
def date (t : Instant) : Date := .ofDayNumber t.day

/-- The hour of the day, from 0 to 23. -/
def hour (t : Instant) : Nat := t.second / 3600

/-- The minute of the hour. -/
def minute (t : Instant) : Nat := t.second / 60 % 60

/-- The second of the minute: 60 within a leap second. -/
def secondOfMinute (t : Instant) : Nat := t.second % 60 + t.nano / 1_000_000_000

/-- The nanoseconds into the second, or into the leap second. -/
def subsecond (t : Instant) : Nat := t.nano % 1_000_000_000

/-- A year, with four digits; outside 0 to 9999 with a sign and at least four digits. -/
def renderYear (year : Int) : String :=
  if 0 ≤ year ∧ year ≤ 9999 then Text.padded 4 year.toNat
  else (if year < 0 then "-" else "+") ++ Text.padded 4 year.natAbs

/-- A fraction of a second: as many of 0, 3, 6 or 9 digits as it takes. -/
def renderSubsecond (nanos : Nat) : String :=
  if nanos = 0 then ""
  else if nanos % 1_000_000 = 0 then "." ++ Text.padded 3 (nanos / 1_000_000)
  else if nanos % 1000 = 0 then "." ++ Text.padded 6 (nanos / 1000)
  else "." ++ Text.padded 9 nanos

/-- Writes an instant as date and time in universal time. -/
def render (t : Instant) : String :=
  let d := t.date
  renderYear d.year ++ "-" ++ Text.padded 2 d.month ++ "-" ++ Text.padded 2 d.day ++ "T" ++
    Text.padded 2 t.hour ++ ":" ++ Text.padded 2 t.minute ++ ":" ++
    Text.padded 2 t.secondOfMinute ++ renderSubsecond t.subsecond ++ "Z"

/-- What a clock with twelve hours shows: hour, minute, second, and which half of the day. The hour
before one o'clock is twelve. -/
def clock (t : Instant) : String :=
  let dial := if t.hour % 12 = 0 then 12 else t.hour % 12
  Text.padded 2 dial ++ ":" ++ Text.padded 2 t.minute ++ ":" ++ Text.padded 2 t.secondOfMinute ++
    (if t.hour < 12 then "AM" else "PM")

/-- The instant at a day, second and nanosecond, if those are in range. -/
def of? (day : Int) (second nano : Nat) : Option Instant :=
  if h : firstDay ≤ day ∧ day ≤ lastDay ∧ second < 86400 ∧ nano < 2_000_000_000 ∧
      (nano < 1_000_000_000 ∨ second % 60 = 59) then
    some ⟨day, second, nano, h.1, h.2.1, h.2.2.1, h.2.2.2.1, h.2.2.2.2⟩
  else none

end Instant

end LogGate.Time
