/-!
# Calendar dates

Days of the proleptic Gregorian calendar: lengths of months, the number of a day within its year and from the
first day of year 1, weekdays, and the week numbers in use.
-/

namespace ScriptEval.Calendar

structure Date where
  year : Nat
  month : Nat
  day : Nat
  deriving DecidableEq, Repr

def isLeapYear (year : Nat) : Bool := year % 4 == 0 && (year % 100 != 0 || year % 400 == 0)

/-- The number of days of a month, the months being numbered from 1. -/
def monthLength (year month : Nat) : Nat :=
  if month == 2 then if isLeapYear year then 29 else 28
  else if month == 4 || month == 6 || month == 9 || month == 11 then 30
  else 31

/-- The number of days of a year. -/
def yearLength (year : Nat) : Nat := if isLeapYear year then 366 else 365

/-- The number of days from 1 January of year 1 to 1 January of `year`. -/
def daysBeforeYear (year : Nat) : Nat :=
  let y := year - 1
  365 * y + y / 4 - y / 100 + y / 400

namespace Date

/-- The number of days of the year before the date. -/
def dayOfYear (d : Date) : Nat :=
  (List.range (d.month - 1)).foldl (fun n m => n + monthLength d.year (m + 1)) 0 + (d.day - 1)

/-- The number of days from 1 January of year 1 to the date. -/
def dayNumber (d : Date) : Nat := daysBeforeYear d.year + d.dayOfYear

/-- The day of the week, Monday being 0. The first day of year 1 was a Monday. -/
def weekday (d : Date) : Nat := d.dayNumber % 7

/-- The day of the week, Sunday being 0. -/
def weekdayFromSunday (d : Date) : Nat := (d.weekday + 1) % 7

/-- The week of the year, weeks starting on Sunday; the days before the first Sunday are in week 0. -/
def sundayWeek (d : Date) : Nat := (d.dayOfYear + 7 - d.weekdayFromSunday) / 7

/-- The week of the year, weeks starting on Monday; the days before the first Monday are in week 0. -/
def mondayWeek (d : Date) : Nat := (d.dayOfYear + 7 - d.weekday) / 7

/-- The year and the week of the year by the rule that a week belongs to the year that has its Thursday. -/
def thursdayWeek (d : Date) : Nat × Nat :=
  let thursday : Int := d.dayOfYear + 3 - d.weekday
  if thursday < 0 then
    (d.year - 1, (thursday + yearLength (d.year - 1)).toNat / 7 + 1)
  else if yearLength d.year ≤ thursday.toNat then
    (d.year + 1, (thursday.toNat - yearLength d.year) / 7 + 1)
  else (d.year, thursday.toNat / 7 + 1)

end Date

end ScriptEval.Calendar
