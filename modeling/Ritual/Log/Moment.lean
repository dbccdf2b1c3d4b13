namespace Ritual
namespace Log

/-!
# Moments and their stamps

A moment counts from the beginning of 1970 in universal time, and it may lie before it.
Its stamp shows the date of the Gregorian calendar, which is carried on into the years
before its beginning, and the time down to microseconds.  Leap seconds are not counted.
-/

/-- A moment: the whole seconds since the beginning of 1970, and the rest. -/
structure Moment where
  seconds : Int
  nanoseconds : Fin 1000000000
deriving DecidableEq, Repr

namespace Moment

/-- A day of the calendar. -/
structure Date where
  year : Int
  month : Nat
  day : Nat
deriving DecidableEq, Repr

/-- The number of seconds of a day. -/
def daySeconds : Int := 86400

/-- The number of days of 400 years, after which the calendar repeats. -/
def cycleDays : Int := 146097

/-- The days from the first of March in the year 0 to the beginning of 1970. -/
def daysBefore1970 : Int := 719468

/-- The date of a day, given the number of days between it and the beginning of 1970.
Years are taken to begin with March, so that a leap day is the last of its year. -/
def dateOf (days : Int) : Date :=
  let cycle := (days + daysBefore1970) / cycleDays
  let dayOfCycle := ((days + daysBefore1970) % cycleDays).toNat
  -- leap days end every fourth year, but only every fourth of the hundredth ones; without
  -- them all years have 365 days
  let yearOfCycle :=
    (dayOfCycle - dayOfCycle / 1460 + dayOfCycle / 36524 - dayOfCycle / 146096) / 365
  let dayOfYear := dayOfCycle - (365 * yearOfCycle + yearOfCycle / 4 - yearOfCycle / 100)
  -- five months, beginning with March or August, have 153 days
  let monthOfYear := (5 * dayOfYear + 2) / 153
  let day := dayOfYear - (153 * monthOfYear + 2) / 5 + 1
  let year := 400 * cycle + yearOfCycle
  if monthOfYear < 10 then ⟨year, monthOfYear + 3, day⟩ else ⟨year + 1, monthOfYear - 9, day⟩

/-- A number with zeros in front of it up to a width. -/
def padded (width value : Nat) : String :=
  String.ofList ((toString value).toList.leftpad width '0')

/-- A year with four digits.  Years with more have a plus sign, and years before the
year 0 a minus sign. -/
def yearText (year : Int) : String :=
  (if year < 0 then "-" else if 9999 < year then "+" else "") ++ padded 4 year.natAbs

/-- The text of a date. -/
def dateText (date : Date) : String :=
  yearText date.year ++ "-" ++ padded 2 date.month ++ "-" ++ padded 2 date.day

/-- The text of a time of a day, given in seconds and nanoseconds. -/
def timeText (seconds nanoseconds : Nat) : String :=
  padded 2 (seconds / 3600) ++ ":" ++ padded 2 (seconds / 60 % 60) ++ ":" ++
    padded 2 (seconds % 60) ++ "." ++ padded 6 (nanoseconds / 1000)

/-- The stamp of a moment. -/
def stamp (moment : Moment) : String :=
  dateText (dateOf (moment.seconds / daySeconds)) ++ "T" ++
    timeText (moment.seconds % daySeconds).toNat moment.nanoseconds ++ "Z"

/-- The last microsecond of a leap day. -/
example : stamp ⟨951868799, 999999999⟩ = "2000-02-29T23:59:59.999999Z" := by
  decide

end Moment
end Log
end Ritual
