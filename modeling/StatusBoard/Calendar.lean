/-!
Dates of the proleptic Gregorian calendar, and the time stamp in the header.

Instants are seconds since the start of 1970, leap seconds not counted.  Years are grouped into
cycles of 400, which all have the same length, and start in March, so that a leap day is the last
day of its year.
-/

namespace StatusBoard.Calendar

/-- A day of the calendar. -/
structure Date where
  year : Int
  month : Nat
  day : Nat
  deriving DecidableEq, Repr

def daysPerCycle : Int := 146097

/-- Days from the first of March of the year 0 to the start of 1970. -/
def daysBefore1970 : Int := 719468

/-- Year of a cycle, counted from March, in which a day of the cycle lies. -/
def yearOfCycle (day : Nat) : Nat := (day - day / 1460 + day / 36524 - day / 146096) / 365

/-- The date of a day, counted from the first of January 1970. -/
def dateOfDay (day : Int) : Date :=
  let shifted := day + daysBefore1970
  let cycle := shifted / daysPerCycle
  let dayOfCycle := (shifted % daysPerCycle).toNat
  let year := yearOfCycle dayOfCycle
  let dayOfYear := dayOfCycle - (365 * year + year / 4 - year / 100)
  let monthFromMarch := (5 * dayOfYear + 2) / 153
  let month := if monthFromMarch < 10 then monthFromMarch + 3 else monthFromMarch - 9
  { year := year + cycle * 400 + (if month ≤ 2 then 1 else 0)
    month
    day := dayOfYear - (153 * monthFromMarch + 2) / 5 + 1 }

/-- Decimal digits with zeros in front, at least `width` of them. -/
def padded (width n : Nat) : String :=
  let digits := toString n
  String.ofList (List.replicate (width - digits.length) '0') ++ digits

/-- A year of four digits, or with its sign and at least four digits outside the years 0 to 9999.
-/
def yearText (year : Int) : String :=
  if year < 0 then "-" ++ padded 4 year.natAbs
  else if 9999 < year then "+" ++ padded 4 year.natAbs
  else padded 4 year.natAbs

/-- The time stamp of an instant, to the minute. -/
def stamp (seconds : Int) : String :=
  let date := dateOfDay (seconds / 86400)
  let minute := ((seconds % 86400) / 60).toNat
  yearText date.year ++ "-" ++ padded 2 date.month ++ "-" ++ padded 2 date.day ++ " " ++
    padded 2 (minute / 60) ++ ":" ++ padded 2 (minute % 60) ++ " UTC"

example : stamp 1792397100 = "2026-10-19 08:05 UTC" := by decide +kernel
example : stamp (-1) = "1969-12-31 23:59 UTC" := by decide +kernel

end StatusBoard.Calendar
