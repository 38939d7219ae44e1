/-!
# The calendar

Days of the proleptic Gregorian calendar, counted from the first day of the year 0, and the time of
day in seconds.
-/

namespace GroundLink.Calendar

/-- Whether a year has a leap day. -/
def isLeap (year : Nat) : Bool :=
  year % 4 = 0 && (year % 100 != 0 || year % 400 = 0)

/-- The days of a year. -/
def yearLength (year : Nat) : Nat :=
  if isLeap year then 366 else 365

/-- The days before the first day of a year. -/
def daysBeforeYear : (year : Nat) → Nat
  | 0 => 0
  | year + 1 => daysBeforeYear year + yearLength year

/-- The days of a month, January being 1. -/
def monthLength (leap : Bool) (month : Nat) : Nat :=
  match month with
  | 2 => if leap then 29 else 28
  | 4 | 6 | 9 | 11 => 30
  | _ => 31

/-- The days of a year before a month. -/
def daysBeforeMonth (leap : Bool) (month : Nat) : Nat :=
  (List.range (month - 1)).foldl (fun total m => total + monthLength leap (m + 1)) 0

/-- A day of the calendar. -/
structure Date where
  year : Nat
  month : Nat
  day : Nat
deriving DecidableEq, Repr

/-- Whether the calendar has the day. -/
def Date.isValid (date : Date) : Bool :=
  1 ≤ date.month && date.month ≤ 12 && 1 ≤ date.day &&
    date.day ≤ monthLength (isLeap date.year) date.month

/-- The days before a date. -/
def Date.dayNumber (date : Date) : Nat :=
  daysBeforeYear date.year + daysBeforeMonth (isLeap date.year) date.month + (date.day - 1)

/-- The year that holds a day counted from the first day of `year`, and the day in it. -/
def findYear (year days : Nat) : Nat × Nat :=
  if days < yearLength year then (year, days) else findYear (year + 1) (days - yearLength year)
termination_by days
decreasing_by
  have : 0 < yearLength year := by unfold yearLength; split <;> decide
  omega

/-- The month that holds a day counted from the first day of `month`, and the day in it. -/
def findMonth (leap : Bool) (month days : Nat) : Nat × Nat :=
  if days < monthLength leap month then (month, days)
  else findMonth leap (month + 1) (days - monthLength leap month)
termination_by days
decreasing_by
  have : 0 < monthLength leap month := by unfold monthLength; split <;> (try split) <;> decide
  omega

/-- The date of a day counted from the first day of a year. -/
def dateFrom (year days : Nat) : Date :=
  let (year, days) := findYear year days
  let (month, days) := findMonth (isLeap year) 1 days
  ⟨year, month, days + 1⟩

/-- A date and a second of its day, in universal time. -/
structure Moment where
  date : Date
  second : Nat
deriving DecidableEq, Repr

/-- The last year of which dates are kept. -/
def lastYear : Nat := 262142

/-- The moment of a number of seconds from the start of 1970, if dates are kept of its year. -/
def Moment.ofUnix? (unix : Nat) : Option Moment :=
  let date := dateFrom 1970 (unix / 86400)
  if date.year ≤ lastYear then some ⟨date, unix % 86400⟩ else none

/-- A moment in seconds from the start of 1970. -/
def Moment.unix (moment : Moment) : Int :=
  (moment.date.dayNumber - daysBeforeYear 1970) * 86400 + moment.second

/-- A number with at least `width` decimal digits. -/
def padded (width n : Nat) : String :=
  let digits := Nat.toDigits 10 n
  String.ofList (List.replicate (width - digits.length) '0' ++ digits)

/-- A date and a second of its day in the format of RFC 3339, at the zero offset. -/
def instantText (date : Date) (second : Nat) : String :=
  padded 4 date.year ++ "-" ++ padded 2 date.month ++ "-" ++ padded 2 date.day ++ "T" ++
    padded 2 (second / 3600) ++ ":" ++ padded 2 (second / 60 % 60) ++ ":" ++
    padded 2 (second % 60) ++ "Z"

/-- A moment in the format of RFC 3339. -/
def Moment.text (moment : Moment) : String :=
  instantText moment.date moment.second

end GroundLink.Calendar
