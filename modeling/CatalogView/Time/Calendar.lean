import CatalogView.Decimal.Shortest

/-!
# Instants and the calendar

An instant is counted in seconds from the beginning of 1970 in universal time, which the Gregorian
calendar, extended to all years, turns into a day and a time of day.
-/

namespace CatalogView.Time

open CatalogView.Decimal

/-- A point in time: whole seconds since the beginning of 1970 and nanoseconds after them. -/
structure Instant where
  seconds : Int
  nanos : Nat
  deriving DecidableEq, Repr

namespace Instant

/-- The first second of the calendar's earliest year that is kept. -/
def minSeconds : Int := -8334601228800

/-- The last second of the calendar's latest year that is kept. -/
def maxSeconds : Int := 8210266876799

/-- The instant so many seconds after the beginning of 1970 and so many nanoseconds after those,
if it lies in the years that are kept. Nanoseconds fill less than a second, or less than two after
the last second of a minute, where a leap second may follow. -/
def ofParts? (seconds : Int64) (nanos : UInt32) : Option Instant :=
  if minSeconds ≤ seconds.toInt ∧ seconds.toInt ≤ maxSeconds ∧
      (nanos.toNat < 1000000000 ∨
        nanos.toNat < 2000000000 ∧ seconds.toInt.emod 60 = 59) then
    some ⟨seconds.toInt, nanos.toNat⟩
  else none

end Instant

/-- A day of the calendar. -/
structure Date where
  year : Int
  month : Nat
  day : Nat
  deriving DecidableEq, Repr

/-- The day that many days after the first of January 1970. Years are counted from March here, so
that a leap day ends its year. A cycle of the calendar has 146097 days in 400 years. -/
def Date.ofDays (days : Int) : Date :=
  let shifted := days + 719468
  let cycle := shifted.fdiv 146097
  let dayOfCycle := (shifted.fmod 146097).toNat
  let yearOfCycle :=
    (dayOfCycle - dayOfCycle / 1460 + dayOfCycle / 36524 - dayOfCycle / 146096) / 365
  let dayOfYear := dayOfCycle - (365 * yearOfCycle + yearOfCycle / 4 - yearOfCycle / 100)
  let fromMarch := (5 * dayOfYear + 2) / 153
  let month := if fromMarch < 10 then fromMarch + 3 else fromMarch - 9
  { year := cycle * 400 + yearOfCycle + (if month ≤ 2 then 1 else 0)
    month
    day := dayOfYear - (153 * fromMarch + 2) / 5 + 1 }

/-- The name of a month. -/
def monthName : Nat → String
  | 1 => "January"
  | 2 => "February"
  | 3 => "March"
  | 4 => "April"
  | 5 => "May"
  | 6 => "June"
  | 7 => "July"
  | 8 => "August"
  | 9 => "September"
  | 10 => "October"
  | 11 => "November"
  | _ => "December"

/-- A number with at least so many digits. -/
def padded (length n : Nat) : String :=
  String.ofList (padZeros length (natDigits n))

/-- A year with at least four digits, and with a sign unless it has four and is not negative. -/
def yearText (year : Int) : String :=
  if 0 ≤ year ∧ year ≤ 9999 then padded 4 year.toNat
  else (if year < 0 then "-" else "+") ++ padded 4 year.natAbs

/-- The minute of an instant as a reader sees it, such as `October 1, 2021 at 7:05 AM`. -/
def Instant.show (instant : Instant) : String :=
  let date := Date.ofDays (instant.seconds.fdiv 86400)
  let minutes := (instant.seconds.fmod 86400).toNat / 60
  let hour := minutes / 60
  let hourOnDial := if hour % 12 = 0 then 12 else hour % 12
  s!"{monthName date.month} {date.day}, {yearText date.year} at {hourOnDial}:" ++
    padded 2 (minutes % 60) ++ (if hour < 12 then " AM" else " PM")

end CatalogView.Time
