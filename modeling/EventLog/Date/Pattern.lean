/-!
# Date patterns

A date pattern is text with `%` directives. `read` splits it into directives and refuses the whole
pattern when one of them is unknown or incomplete. Directives for numbers take a padding mark after
the percent sign (`-` none, `_` spaces, `0` zeros); the composite directives stand for a sequence.
-/

namespace EventLog.Date

/-- How a number is brought to its width. -/
inductive Padding where
  | none | space | zero
  deriving DecidableEq

/-- The numbers that a date pattern can show. -/
inductive Quantity where
  | year | century | yearOfCentury | quarter | month | day
  | weekdayFromSunday | weekdayFromMonday | weekFromSunday | weekFromMonday
  | weekYear | weekYearOfCentury | weekOfWeekYear | dayOfYear
  | hour | halfDayHour | minute | second | nanosecond | unixTime
  deriving DecidableEq

/-- The forms of the distance to Greenwich. -/
inductive OffsetForm where
  | hours | minutes | minutesColon | secondsColon
  deriving DecidableEq

/-- One element of a date pattern. -/
inductive Directive where
  | literal (c : Char)
  | number (quantity : Quantity) (padding : Padding)
  | monthName (short : Bool)
  | weekdayName (short : Bool)
  | halfDay (upper : Bool)
  /-- The fraction of the second in some number of digits, after a point if asked for. -/
  | fraction (digits : Nat) (point : Bool)
  | offset (form : OffsetForm)
  /-- The distance to Greenwich in the place of a zone name. -/
  | zoneName
  /-- A form of the offset that only readers of dates understand: it cannot be shown. -/
  | offsetOnReading
  deriving DecidableEq

/-- The numbers by letter, with the padding they have unless marked otherwise. -/
def quantities : List (Char × Quantity × Padding) :=
  [('Y', .year, .zero), ('C', .century, .zero), ('y', .yearOfCentury, .zero),
   ('q', .quarter, .zero), ('m', .month, .zero), ('d', .day, .zero), ('e', .day, .space),
   ('w', .weekdayFromSunday, .zero), ('u', .weekdayFromMonday, .zero),
   ('U', .weekFromSunday, .zero), ('W', .weekFromMonday, .zero), ('G', .weekYear, .zero),
   ('g', .weekYearOfCentury, .zero), ('V', .weekOfWeekYear, .zero), ('j', .dayOfYear, .zero),
   ('H', .hour, .zero), ('k', .hour, .space), ('I', .halfDayHour, .zero),
   ('l', .halfDayHour, .space), ('M', .minute, .zero), ('S', .second, .zero),
   ('f', .nanosecond, .zero), ('s', .unixTime, .none)]

/-- The padding marks. -/
def paddings : List (Char × Padding) := [('-', .none), ('_', .space), ('0', .zero)]

private def twoDigits (q : Quantity) : Directive := .number q .zero

private def monthDayYear : List Directive :=
  [twoDigits .month, .literal '/', twoDigits .day, .literal '/', twoDigits .yearOfCentury]

private def yearMonthDay : List Directive :=
  [twoDigits .year, .literal '-', twoDigits .month, .literal '-', twoDigits .day]

private def hourMinute : List Directive := [twoDigits .hour, .literal ':', twoDigits .minute]

private def hourMinuteSecond : List Directive :=
  hourMinute ++ [.literal ':', twoDigits .second]

/-- The other directives by the text after the percent sign. None is the beginning of another. -/
def sequences : List (String × List Directive) :=
  [("b", [.monthName true]), ("h", [.monthName true]), ("B", [.monthName false]),
   ("a", [.weekdayName true]), ("A", [.weekdayName false]),
   ("P", [.halfDay false]), ("p", [.halfDay true]),
   ("D", monthDayYear), ("x", monthDayYear), ("F", yearMonthDay),
   ("v", [.number .day .space, .literal '-', .monthName true, .literal '-', twoDigits .year]),
   ("R", hourMinute), ("T", hourMinuteSecond), ("X", hourMinuteSecond),
   ("r", [twoDigits .halfDayHour, .literal ':', twoDigits .minute, .literal ':',
      twoDigits .second, .literal ' ', .halfDay true]),
   ("c", [.weekdayName true, .literal ' ', .monthName true, .literal ' ', .number .day .space,
      .literal ' '] ++ hourMinuteSecond ++ [.literal ' ', twoDigits .year]),
   ("+", yearMonthDay ++ [.literal 'T'] ++ hourMinuteSecond ++ [.offset .minutesColon]),
   ("t", [.literal '\t']), ("n", [.literal '\n']), ("%", [.literal '%']),
   (".f", [.fraction 0 true]), (".3f", [.fraction 3 true]), (".6f", [.fraction 6 true]),
   (".9f", [.fraction 9 true]), ("3f", [.fraction 3 false]), ("6f", [.fraction 6 false]),
   ("9f", [.fraction 9 false]),
   ("z", [.offset .minutes]), (":z", [.offset .minutesColon]), ("::z", [.offset .secondsColon]),
   (":::z", [.offset .hours]), ("Z", [.zoneName]), ("#z", [.offsetOnReading])]

/-- The number directive of a letter under a padding mark, or under its own padding. -/
def number? (letter : Char) (mark : Option Padding) : Option Directive :=
  (quantities.lookup letter).map fun (quantity, own) => .number quantity (mark.getD own)

/-- What a percent sign before this text stands for, with the number of characters it takes. -/
def directive? (rest : List Char) : Option (List Directive × Nat) :=
  match sequences.find? fun (spelling, _) => spelling.toList.isPrefixOf rest with
  | some (spelling, sequence) => some (sequence, spelling.length)
  | none =>
    match rest with
    | [] => none
    | c :: more =>
      match paddings.lookup c, more with
      | some padding, letter :: _ => (number? letter (some padding)).map fun d => ([d], 2)
      | some _, [] => none
      | none, _ => (number? c none).map fun d => ([d], 1)

/-- The directives of a date pattern, unless it is refused. -/
def read : List Char → Option (List Directive)
  | [] => some []
  | c :: rest =>
    if c = '%' then
      match directive? rest with
      | some (sequence, taken) => (sequence ++ ·) <$> read (rest.drop taken)
      | none => none
    else (.literal c :: ·) <$> read rest
termination_by pattern => pattern.length
decreasing_by all_goals simp_wf; try omega

/-- Whether a date pattern can be compiled. -/
def accepts (pattern : String) : Bool := (read pattern.toList).isSome

end EventLog.Date
