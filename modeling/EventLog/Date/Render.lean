import EventLog.Date.Civil
import EventLog.Date.Pattern

/-!
# Showing a moment

`dateText` shows a moment of a zone by a date pattern. A moment is a count of seconds since 1970 in
Greenwich together with the seconds that local clocks are ahead. A pattern with an element that
cannot be shown shows nothing at all, and a moment outside the supported years shows its plain
count of seconds.
-/

namespace EventLog.Date

/-- A point in time as read in a zone: seconds since 1970, and seconds east of Greenwich. -/
structure Moment where
  unix : Int
  east : Int

namespace Moment

/-- Seconds since 1970 by the local clock. -/
def wall (m : Moment) : Int := m.unix + m.east

/-- The local day number. -/
def day (m : Moment) : Int := m.wall / 86400

/-- The second of the local day. -/
def secondOfDay (m : Moment) : Nat := (m.wall % 86400).toNat

def hour (m : Moment) : Nat := m.secondOfDay / 3600

def minute (m : Moment) : Nat := m.secondOfDay / 60 % 60

def second (m : Moment) : Nat := m.secondOfDay % 60

def civil (m : Moment) : Civil := Civil.ofDay m.day

/-- The hour on a twelve-hour clock. -/
def halfDayHour (m : Moment) : Nat := if m.hour % 12 = 0 then 12 else m.hour % 12

end Moment

/-- The text filled up on the left to a width. -/
def padLeft (width : Nat) (fill : Char) (text : String) : String :=
  String.ofList (List.replicate (width - text.length) fill) ++ text

/-- A whole number under a padding; zeros go between the sign and the digits. -/
def padNumber (width : Nat) (padding : Padding) (sign : String) (n : Nat) : String :=
  match padding with
  | .none => sign ++ toString n
  | .space => padLeft width ' ' (sign ++ toString n)
  | .zero => sign ++ padLeft (width - sign.length) '0' (toString n)

/-- The sign that a negative number carries. -/
def minusSign (n : Int) : String := if n < 0 then "-" else ""

/-- A year: four places, or five with the sign that years outside 0 to 9999 always carry. -/
def yearText (padding : Padding) (year : Int) : String :=
  if 0 ≤ year ∧ year ≤ 9999 then padNumber 4 padding "" year.toNat
  else padNumber 5 padding (if year < 0 then "-" else "+") year.natAbs

/-- A number below 256 in two places. From 100 on the first place holds the character that many
places after the zero. -/
def twoPlaces (padding : Padding) (n : Nat) : String :=
  let tens := Char.ofNat ('0'.toNat + n / 10)
  let ones := Char.ofNat ('0'.toNat + n % 10)
  if n < 10 then
    match padding with
    | .none => ones.toString
    | .space => String.ofList [' ', ones]
    | .zero => String.ofList ['0', ones]
  else String.ofList [tens, ones]

/-- The last two digits of a year. -/
def yearOfCentury (year : Int) : Nat := (year % 100).toNat

/-- A number of a moment under a padding. -/
def Quantity.render (padding : Padding) (m : Moment) : Quantity → String
  | .year => yearText padding m.civil.year
  | .century => twoPlaces padding (m.civil.year / 100 % 256).toNat
  | .yearOfCentury => twoPlaces padding (Date.yearOfCentury m.civil.year)
  | .quarter => toString ((m.civil.month - 1) / 3 + 1)
  | .month => twoPlaces padding m.civil.month
  | .day => twoPlaces padding m.civil.day
  | .weekdayFromSunday => toString (Date.weekdayFromSunday m.day)
  | .weekdayFromMonday => toString (Date.weekdayFromMonday m.day + 1)
  | .weekFromSunday => twoPlaces padding (Date.weekFromSunday m.day)
  | .weekFromMonday => twoPlaces padding (Date.weekFromMonday m.day)
  | .weekYear => yearText padding (Date.weekYear m.day)
  | .weekYearOfCentury => twoPlaces padding (Date.yearOfCentury (Date.weekYear m.day))
  | .weekOfWeekYear => twoPlaces padding (Date.weekOfWeekYear m.day)
  | .dayOfYear => padNumber 3 padding "" (Date.dayOfYear m.day + 1)
  | .hour => twoPlaces padding m.hour
  | .halfDayHour => twoPlaces padding m.halfDayHour
  | .minute => twoPlaces padding m.minute
  | .second => twoPlaces padding m.second
  | .nanosecond => padNumber 9 padding "" 0
  | .unixTime => padNumber 9 padding (minusSign m.unix) m.unix.natAbs

/-- The distance to Greenwich: the sign, then two places each. A form that ends in minutes rounds to
the nearest minute, one that ends in hours cuts off. -/
def OffsetForm.render (east : Int) (form : OffsetForm) : String :=
  let sign := if east < 0 then "-" else "+"
  let distance := east.natAbs
  let minutes := (distance + 30) / 60
  match form with
  | .hours => sign ++ twoPlaces .zero (distance / 3600)
  | .minutes => sign ++ twoPlaces .zero (minutes / 60) ++ twoPlaces .zero (minutes % 60)
  | .minutesColon =>
    sign ++ twoPlaces .zero (minutes / 60) ++ ":" ++ twoPlaces .zero (minutes % 60)
  | .secondsColon =>
    sign ++ twoPlaces .zero (distance / 3600) ++ ":" ++ twoPlaces .zero (distance / 60 % 60)
      ++ ":" ++ twoPlaces .zero (distance % 60)

/-- The distance to Greenwich in hours and minutes, and seconds if there are any. -/
def zoneName (east : Int) : String :=
  let sign := if east < 0 then "-" else "+"
  let distance := east.natAbs
  sign ++ twoPlaces .zero (distance / 3600) ++ ":" ++ twoPlaces .zero (distance / 60 % 60)
    ++ (if distance % 60 = 0 then "" else ":" ++ twoPlaces .zero (distance % 60))

/-- A name in full or by its first three letters. -/
def nameText (names : List String) (index : Nat) (short : Bool) : String :=
  let name := names.getD index ""
  if short then shortName name else name

/-- The text of one element, or none if it cannot be shown. -/
def Directive.render (m : Moment) : Directive → Option String
  | .literal c => some c.toString
  | .number quantity padding => some (quantity.render padding m)
  | .monthName short => some (nameText monthNames (m.civil.month - 1) short)
  | .weekdayName short => some (nameText weekdayNames (Date.weekdayFromSunday m.day) short)
  | .halfDay upper =>
    some (match decide (m.hour < 12), upper with
      | true, true => "AM"
      | true, false => "am"
      | false, true => "PM"
      | false, false => "pm")
  | .fraction digits point =>
    some (if digits = 0 then "" else
      (if point then "." else "") ++ String.ofList (List.replicate digits '0'))
  | .offset form => some (form.render m.east)
  | .zoneName => some (Date.zoneName m.east)
  | .offsetOnReading => none

/-- The texts of all elements in order, or none if one of them cannot be shown. -/
def render? (m : Moment) (pattern : List Directive) : Option String :=
  String.join <$> pattern.mapM (Directive.render m)

/-- The first supported second, in the year -262143. -/
def firstMoment : Int := -8334601228800

/-- The last supported second, in the year 262142. -/
def lastMoment : Int := 8210266876799

/-- A time by a date pattern, read in a zone. -/
def dateText (east : Int) (pattern : String) (time : Int) : String :=
  if firstMoment ≤ time ∧ time ≤ lastMoment then
    ((read pattern.toList).bind (render? ⟨time, east⟩)).getD ""
  else toString time

end EventLog.Date
