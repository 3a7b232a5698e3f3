import PatternCheck.Decimal.Digits
import PatternCheck.Text.Blank
import PatternCheck.Text.Scan

/-
Dates in headers. There are three forms, of which the last two are old:
`Sun, 06 Nov 1994 08:49:37 GMT`, `Sunday, 06-Nov-94 08:49:37 GMT` and
`Sun Nov  6 08:49:37 1994`. A date has to exist, and to fall on the day of
the week that it names.
-/

namespace PatternCheck.Http

open Text (Scan)

/-- A date and a time of day, as they are written. Days of the week count
from Monday, months from January, both from zero. -/
structure Date where
  weekday : Nat
  year : Nat
  month : Nat
  day : Nat
  hour : Nat
  minute : Nat
  second : Nat
deriving Repr, DecidableEq, Inhabited

namespace Date

-- ============================================================== calendar

/-- The days of the week. -/
def weekdays : List String :=
  ["Monday", "Tuesday", "Wednesday", "Thursday", "Friday", "Saturday",
    "Sunday"]

/-- The months. -/
def months : List String :=
  ["Jan", "Feb", "Mar", "Apr", "May", "Jun", "Jul", "Aug", "Sep", "Oct",
    "Nov", "Dec"]

/-- Whether a year has a day more. -/
def isLeap (year : Nat) : Bool :=
  year % 4 = 0 && (year % 100 ≠ 0 || year % 400 = 0)

/-- How many days a month has. -/
def daysIn (year month : Nat) : Nat :=
  if month = 1 then (if isLeap year then 29 else 28)
  else if month = 3 || month = 5 || month = 8 || month = 10 then 30 else 31

/-- How many days have passed before a year, from the first one of the
calendar. -/
def daysBefore (year : Nat) : Nat :=
  let y := year - 1
  365 * y + y / 4 - y / 100 + y / 400

/-- The day of a date, from the first of January 1970. -/
def dayNumber (d : Date) : Nat :=
  daysBefore d.year - daysBefore 1970
    + (List.range d.month).foldl (fun n m => n + daysIn d.year m) 0
    + (d.day - 1)

/-- A date in seconds from the beginning of 1970. -/
def seconds (d : Date) : Nat :=
  ((d.dayNumber * 24 + d.hour) * 60 + d.minute) * 60 + d.second

/-- The month of a year in which a day is that is counted from the first of
some of its months, and which day of that month it is, both from zero. -/
def monthOf (year : Nat) : List Nat → Nat → Nat × Nat
  | [], day => (0, day)
  | month :: later, day =>
    if day < daysIn year month then (month, day)
    else monthOf year later (day - daysIn year month)

/-- The year in which a day is that is counted from the first one of the
calendar, and which day of the year it is, from zero. Of the centuries in
four hundred years the last has a day more, and so has the last of four
years. -/
def yearOf (day : Nat) : Nat × Nat :=
  let inEra := day % 146097
  let century := min 3 (inEra / 36524)
  let inCentury := inEra - century * 36524
  let inFour := inCentury % 1461
  let year := min 3 (inFour / 365)
  (400 * (day / 146097) + 100 * century + 4 * (inCentury / 1461) + year + 1,
    inFour - year * 365)

/-- The date of a time in seconds from the beginning of 1970. -/
def ofSeconds (time : Nat) : Date :=
  let day := time / 86400
  let inYear := yearOf (day + daysBefore 1970)
  let inMonth := monthOf inYear.1 (List.range 12) inYear.2
  { weekday := (day + 3) % 7
    year := inYear.1
    month := inMonth.1
    day := inMonth.2 + 1
    hour := time % 86400 / 3600
    minute := time % 3600 / 60
    second := time % 60 }

/-- Whether a date exists. The first of January 1970 was a Thursday. -/
def isValid (d : Date) : Bool :=
  d.second < 60 && d.minute < 60 && d.hour < 24 && 1 ≤ d.day && d.month < 12
    && 1970 ≤ d.year && d.year ≤ 9999 && d.day ≤ daysIn d.year d.month
    && (d.dayNumber + 3) % 7 = d.weekday

-- =============================================================== writing

/-- A number with so many digits at least. -/
def padded (width n : Nat) : List Char :=
  let ds := Nat.toDigits 10 n
  List.replicate (width - ds.length) '0' ++ ds

/-- A day of the week by its first three letters. -/
def shortName (name : String) : String := String.ofList (name.toList.take 3)

/-- The text of a date, in the form that is in use. -/
def render (d : Date) : String :=
  let two n := String.ofList (padded 2 n)
  shortName (weekdays.getD d.weekday "") ++ ", " ++ two d.day ++ " "
    ++ months.getD d.month ""
    ++ " " ++ String.ofList (padded 4 d.year) ++ " " ++ two d.hour ++ ":"
    ++ two d.minute ++ ":" ++ two d.second ++ " GMT"

-- =============================================================== reading

/-- So many digits as a number. -/
def digits (count : Nat) : Scan Nat := fun cs =>
  let ds := cs.take count
  if ds.length = count && ds.all (Decimal.isDigit 10) then
    some (Decimal.digitsValue 10 ds, cs.drop count)
  else none

/-- The place of the first of some names that comes next. -/
def oneOf : List String → Nat → Scan Nat
  | [], _ => failure
  | name :: rest, place =>
    (do
      Scan.exactly name
      return place) <|> oneOf rest (place + 1)

/-- A month. -/
def monthName : Scan Nat := oneOf months 0

/-- A day of the week by its first three letters. -/
def shortWeekday : Scan Nat := oneOf (weekdays.map shortName) 0

/-- A time of day. -/
def clock : Scan (Nat × Nat × Nat) := do
  let hour ← digits 2
  Scan.char ':'
  let minute ← digits 2
  Scan.char ':'
  return (hour, minute, ← digits 2)

/-- The form that is in use. -/
def standard : Scan Date := do
  let weekday ← shortWeekday
  Scan.exactly ", "
  let day ← digits 2
  Scan.char ' '
  let month ← monthName
  Scan.char ' '
  let year ← digits 4
  Scan.char ' '
  let (hour, minute, second) ← clock
  Scan.exactly " GMT"
  return { weekday, year, month, day, hour, minute, second }

/-- The form with a year of two digits. What stands before the time does
not count. -/
def dashed : Scan Date := do
  let weekday ← oneOf weekdays 0
  Scan.exactly ", "
  let day ← digits 2
  Scan.char '-'
  let month ← monthName
  Scan.char '-'
  let short ← digits 2
  let _ ← Scan.any
  let (hour, minute, second) ← clock
  Scan.exactly " GMT"
  let year := if short < 70 then short + 2000 else short + 1900
  return { weekday, year, month, day, hour, minute, second }

/-- The form with the year at the end, and a day that may have one
digit after a blank. -/
def yearLast : Scan Date := do
  let weekday ← shortWeekday
  Scan.char ' '
  let month ← monthName
  Scan.char ' '
  let oneDigit : Scan Nat := do
    Scan.char ' '
    digits 1
  let day ← oneDigit <|> digits 2
  Scan.char ' '
  let (hour, minute, second) ← clock
  Scan.char ' '
  let year ← digits 4
  return { weekday, year, month, day, hour, minute, second }

/-- The date that a text is, in seconds from the beginning of 1970. -/
def ofText? (text : String) : Option Nat := do
  let cs ←
    if text.toList.all (· < '\x80') then some (Text.trim text.toList) else none
  let d ←
    (Scan.whole standard cs).or
      ((Scan.whole dashed cs).or (Scan.whole yearLast cs))
  if d.isValid then some d.seconds else none

end Date

end PatternCheck.Http
