/-!
# Civil dates

Days are counted from 1970-01-01 in the Gregorian calendar, extended without end in both
directions. `Civil.ofDay` gives year, month and day of a day number; the other functions give its
weekday, its place in the year and its weeks. A week of the week-numbering year belongs to the year
that holds its Thursday.
-/

namespace EventLog.Date

/-- The number of the first day of a year. -/
def newYear (year : Int) : Int :=
  let past := year - 1
  365 * past + past / 4 - past / 100 + past / 400 - 719162

/-- A day by year, month (from 1) and day of the month (from 1). -/
structure Civil where
  year : Int
  month : Nat
  day : Nat
  deriving DecidableEq

/-- The civil date of a day number. Years are counted from March inside, so that a leap day is the
last day of its year; 400 years are one cycle of 146097 days. -/
def Civil.ofDay (day : Int) : Civil :=
  let shifted := day + 719468
  let cycle := shifted / 146097
  let inCycle := (shifted % 146097).toNat
  let yearInCycle := (inCycle - inCycle / 1460 + inCycle / 36524 - inCycle / 146096) / 365
  let dayInYear := inCycle - (365 * yearInCycle + yearInCycle / 4 - yearInCycle / 100)
  let fromMarch := (5 * dayInYear + 2) / 153
  let month := if fromMarch < 10 then fromMarch + 3 else fromMarch - 9
  { year := yearInCycle + cycle * 400 + (if month ≤ 2 then 1 else 0)
    month
    day := dayInYear - (153 * fromMarch + 2) / 5 + 1 }

/-- The weekday of a day number, counted from Sunday. -/
def weekdayFromSunday (day : Int) : Nat := ((day + 4) % 7).toNat

/-- The weekday of a day number, counted from Monday. -/
def weekdayFromMonday (day : Int) : Nat := ((day + 3) % 7).toNat

/-- How many days of its year lie before a day. -/
def dayOfYear (day : Int) : Nat := (day - newYear (Civil.ofDay day).year).toNat

/-- The week of the year, weeks starting on Sunday; the days before the first Sunday are week 0. -/
def weekFromSunday (day : Int) : Nat := (dayOfYear day + 7 - weekdayFromSunday day) / 7

/-- The week of the year, weeks starting on Monday; the days before the first Monday are week 0. -/
def weekFromMonday (day : Int) : Nat := (dayOfYear day + 7 - weekdayFromMonday day) / 7

/-- The Thursday of the week that starts on Monday. -/
def thursday (day : Int) : Int := day - weekdayFromMonday day + 3

/-- The week-numbering year of a day. -/
def weekYear (day : Int) : Int := (Civil.ofDay (thursday day)).year

/-- The week of the week-numbering year, from 1. -/
def weekOfWeekYear (day : Int) : Nat := dayOfYear (thursday day) / 7 + 1

/-- The month names. -/
def monthNames : List String :=
  ["January", "February", "March", "April", "May", "June", "July", "August", "September",
   "October", "November", "December"]

/-- The weekday names, from Sunday. -/
def weekdayNames : List String :=
  ["Sunday", "Monday", "Tuesday", "Wednesday", "Thursday", "Friday", "Saturday"]

/-- The first three characters of a name. -/
def shortName (name : String) : String := String.ofList (name.toList.take 3)

end EventLog.Date
