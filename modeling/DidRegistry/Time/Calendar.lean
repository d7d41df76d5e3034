/-!
# The calendar

Days of the proleptic Gregorian calendar, counted from the first of January of the year 1, which is
day 1.  Weeks start on a Monday, and the first week of a year is the one with its first Thursday.
-/

set_option autoImplicit false

namespace DidRegistry.Calendar

/-- Whether a year has a leap day. -/
def isLeap (year : Int) : Bool :=
  year % 4 == 0 && (year % 100 != 0 || year % 400 == 0)

/-- The number of days of a month; no month has a number outside 1 to 12. -/
def daysIn (year : Int) (month : Nat) : Nat :=
  match month with
  | 2 => if isLeap year then 29 else 28
  | 4 | 6 | 9 | 11 => 30
  | 1 | 3 | 5 | 7 | 8 | 10 | 12 => 31
  | _ => 0

/-- The number of days before a year. -/
def daysBeforeYear (year : Int) : Int :=
  let y := year - 1
  y * 365 + y / 4 - y / 100 + y / 400

/-- The number of days of a year before a month. -/
def daysBeforeMonth (year : Int) : (month : Nat) → Nat
  | 0 => 0
  | 1 => 0
  | m + 2 => daysBeforeMonth year (m + 1) + daysIn year (m + 1)

/-- A calendar day. -/
structure Date where
  year : Int
  month : Nat
  day : Nat
deriving DecidableEq, Repr

/-- The number of a day. -/
def Date.ordinal (d : Date) : Int :=
  daysBeforeYear d.year + daysBeforeMonth d.year d.month + d.day

/-- Whether a date is one of the years 1 to 9999. -/
def Date.isValid (d : Date) : Bool :=
  1 ≤ d.year && d.year ≤ 9999 && 1 ≤ d.month && d.month ≤ 12 && 1 ≤ d.day &&
    d.day ≤ daysIn d.year d.month

/-- The month and the day of the `n`th day of a year, from `month` on. -/
def monthFrom (year : Int) : (months : Nat) → (month : Nat) → (n : Nat) → Nat × Nat
  | 0, month, n => (month, n)
  | left + 1, month, n =>
    if n ≤ daysIn year month then (month, n)
    else monthFrom year left (month + 1) (n - daysIn year month)

/-- The day with a number. -/
def Date.ofOrdinal (n : Int) : Date :=
  -- cycles of 400, 100, 4 years and 1 year; the last day of a cycle may be a leap day
  let n0 := n - 1
  let n400 := n0 / 146097
  let d := n0 % 146097
  let n100 := min (d / 36524) 3
  let d := d - n100 * 36524
  let n4 := d / 1461
  let d := d - n4 * 1461
  let n1 := min (d / 365) 3
  let d := d - n1 * 365
  let year := n400 * 400 + n100 * 100 + n4 * 4 + n1 + 1
  let (month, day) := monthFrom year 11 1 (d.toNat + 1)
  ⟨year, month, day⟩

/-- The day of the week, 0 for Monday. -/
def weekday (ordinal : Int) : Int := (ordinal + 6) % 7

/-- The number of the Monday of the first week of a year. -/
def firstMonday (year : Int) : Int :=
  let first := (Date.mk year 1 1).ordinal
  let w := weekday first
  if 3 < w then first - w + 7 else first - w

/-- The day of a week date, if the year has the week and the week the day. -/
def ofWeek? (year : Int) (week day : Nat) : Option Date :=
  let start := weekday (Date.mk year 1 1).ordinal
  let isLong := start == 3 || (start == 2 && isLeap year)
  if 1 ≤ week && (week ≤ 52 || (week == 53 && isLong)) && 1 ≤ day && day ≤ 7 then
    some (Date.ofOrdinal (firstMonday year + (week - 1) * 7 + (day - 1)))
  else none

end DidRegistry.Calendar
