/-!
# The calendar and the clock

Dates of the proleptic Gregorian calendar and times of day. A time of day may name a leap second: it
is written as second 60 and kept as second 59 with a billion nanoseconds or more.

A date and a time of day together are a point on the local time line, counted in days, seconds of
the day and nanoseconds. Points are ordered by these three. Moving a point by whole seconds takes
it out of a leap second, to the second before when it moves forward and to the second after when it
moves back.
-/

namespace Abac

/-- Whether a year has 366 days. -/
def isLeapYear (y : Int) : Bool := y % 4 == 0 && (y % 100 != 0 || y % 400 == 0)

/-- The number of days of a month. -/
def daysInMonth (y : Int) (m : Nat) : Nat :=
  if m = 2 then (if isLeapYear y then 29 else 28)
  else if m = 4 ∨ m = 6 ∨ m = 9 ∨ m = 11 then 30
  else 31

/-- The number of days of a year before a month. -/
def daysBeforeMonth (y : Int) : Nat → Nat
  | 0 => 0
  | 1 => 0
  | m + 2 => daysBeforeMonth y (m + 1) + daysInMonth y (m + 1)

/-- The first year of the calendar. -/
def firstYear : Int := -262143

/-- The last year of the calendar. -/
def lastYear : Int := 262142

/-- Whether a year, a month and a day name a date of the calendar. -/
def isDate (y : Int) (m d : Nat) : Bool :=
  firstYear ≤ y && y ≤ lastYear && 1 ≤ m && m ≤ 12 && 1 ≤ d && d ≤ daysInMonth y m

/-- A date of the calendar. -/
structure CivilDate where
  year : Int
  month : Nat
  day : Nat
  /-- The three numbers name a date. -/
  valid : isDate year month day = true
  deriving DecidableEq, Repr

namespace CivilDate

/-- The date with the given numbers, if there is one. -/
def make? (y : Int) (m d : Nat) : Option CivilDate :=
  if h : isDate y m d = true then some ⟨y, m, d, h⟩ else none

/-- The first day of 1970. -/
def epoch : CivilDate := ⟨1970, 1, 1, by decide⟩

end CivilDate

/-- The number of a day, counted from the last day before the year 1. -/
def dayNumber (y : Int) (m d : Nat) : Int :=
  let p := y - 1
  365 * p + p / 4 - p / 100 + p / 400 + daysBeforeMonth y m + d

/-- The number of a date. -/
def CivilDate.number (d : CivilDate) : Int := dayNumber d.year d.month d.day

/-- The number of nanoseconds of a second. -/
def nanosPerSecond : Nat := 1000000000

/-- Whether four numbers name a time of day; only second 59 may hold a leap second. -/
def isClockTime (h m s n : Nat) : Bool :=
  h < 24 && m < 60 && s < 60 && n < 2 * nanosPerSecond && (n < nanosPerSecond || s == 59)

/-- A time of day. -/
structure ClockTime where
  hour : Nat
  minute : Nat
  second : Nat
  /-- Nanoseconds; a billion or more inside a leap second. -/
  nanos : Nat
  /-- The four numbers name a time of day. -/
  valid : isClockTime hour minute second nanos = true
  deriving DecidableEq, Repr

namespace ClockTime

/-- The time of day with the given numbers, if there is one. -/
def make? (h m s n : Nat) : Option ClockTime :=
  if v : isClockTime h m s n = true then some ⟨h, m, s, n, v⟩ else none

/-- The start of the day. -/
def midnight : ClockTime := ⟨0, 0, 0, 0, by decide⟩

/-- The seconds of the day that have passed. -/
def secondOfDay (t : ClockTime) : Nat := t.hour * 3600 + t.minute * 60 + t.second

/-- Whether the time lies in a leap second. -/
def isLeapSecond (t : ClockTime) : Bool := nanosPerSecond ≤ t.nanos

end ClockTime

/-- A point on the local time line. -/
structure Point where
  /-- The number of the day. -/
  day : Int
  /-- The second of the day. -/
  second : Nat
  /-- Nanoseconds of the second; a billion or more inside a leap second. -/
  nanos : Nat
  deriving DecidableEq, Repr

namespace Point

/-- The point of a date and a time of day. -/
def of (d : CivilDate) (t : ClockTime) : Point := ⟨d.number, t.secondOfDay, t.nanos⟩

/-- The order of points: by day, then second, then nanosecond. -/
def cmp (a b : Point) : Ordering :=
  (compare a.day b.day).then ((compare a.second b.second).then (compare a.nanos b.nanos))

/-- Whether the calendar has the day of a point. -/
def inCalendar (p : Point) : Bool :=
  dayNumber firstYear 1 1 ≤ p.day && p.day ≤ dayNumber lastYear 12 31

/-- A point moved by whole seconds, forward when they are positive. -/
def move (p : Point) (seconds : Int) : Point :=
  if seconds = 0 then p
  else
    let inLeap := nanosPerSecond ≤ p.nanos
    let start : Int := if inLeap ∧ seconds < 0 then p.second + 1 else p.second
    let total := start + seconds
    ⟨p.day + total / 86400, (total % 86400).toNat,
      if inLeap then p.nanos - nanosPerSecond else p.nanos⟩

end Point

end Abac
