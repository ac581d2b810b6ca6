/-!
# Calendar

Days of the proleptic Gregorian calendar, numbered from 1 January 1970, and instants as seconds from
then. There are no time zones here: the time of day of an instant is that of clocks at the meridian.
-/

namespace LiveLog

/-- A day of the calendar. -/
structure Date where
  year : Int
  month : Nat
  day : Nat
deriving DecidableEq, Repr

/-- **An instant**: whole seconds from the start of 1970 and nanoseconds after them. A leap second is the
    second before it with nanoseconds from `10 ^ 9` on. -/
structure Instant where
  seconds : Int
  nanos : Nat
deriving DecidableEq, Repr

namespace Date

/-- Whether a year has a 29 February. -/
def isLeap (year : Int) : Bool :=
  year % 4 == 0 && (year % 100 != 0 || year % 400 == 0)

/-- The number of days of a month. -/
def daysIn (year : Int) (month : Nat) : Nat :=
  match month with
  | 2 => if isLeap year then 29 else 28
  | 4 | 6 | 9 | 11 => 30
  | _ => 31

/-- The earliest and the latest year that dates are kept for. -/
def firstYear : Int := -262143

/-- The latest year that dates are kept for. -/
def lastYear : Int := 262142

/-- A date, if there is such a day. -/
def make? (year : Int) (month day : Nat) : Option Date :=
  if firstYear ≤ year && year ≤ lastYear && 1 ≤ month && month ≤ 12 && 1 ≤ day &&
      day ≤ daysIn year month then
    some { year, month, day }
  else none

/-- The days of a year before a month. -/
def daysBefore (year : Int) (month : Nat) : Nat :=
  ((List.range (month - 1)).map fun m => daysIn year (m + 1)).foldr (· + ·) 0

/-- **The number of a day**, counted from 1 January 1970. -/
def number (d : Date) : Int :=
  let y := d.year - 1
  365 * (d.year - 1970) + ((y / 4 - y / 100 + y / 400) - 477) + daysBefore d.year d.month + d.day - 1

/-- A number in at least so many digits. -/
def padded (width n : Nat) : String :=
  let s := toString n
  String.ofList (List.replicate (width - s.length) '0') ++ s

/-- The year in four digits; a year that has fewer or more than four, or is below zero, has a sign. -/
def yearText (year : Int) : String :=
  if 0 ≤ year && year ≤ 9999 then padded 4 year.toNat
  else if year < 0 then "-" ++ padded 4 year.natAbs
  else "+" ++ padded 4 year.toNat

/-- **The text of a date**: year, month and day, with hyphens. -/
def text (d : Date) : String :=
  yearText d.year ++ "-" ++ padded 2 d.month ++ "-" ++ padded 2 d.day

end Date

namespace Instant

/-- The instant of a time of day `offset` seconds east of the meridian. -/
def ofClock (date : Date) (hour minute second nanos : Nat) (offset : Int) : Instant :=
  { seconds := date.number * 86400 + hour * 3600 + minute * 60 + second - offset, nanos }

/-- **The time of day as hours, minutes and seconds.** A leap second is second sixty. -/
def clock (t : Instant) : String :=
  let s := (t.seconds % 86400).toNat
  Date.padded 2 (s / 3600) ++ ":" ++ Date.padded 2 (s / 60 % 60) ++ ":" ++
    Date.padded 2 (s % 60 + t.nanos / 1000000000)

end Instant

example : (Date.mk 1970 1 1).number = 0 := by decide
example : (Date.mk 2024 2 29).number = 19782 := by decide
example : (Date.mk 0 1 1).number = -719528 := by decide

end LiveLog
