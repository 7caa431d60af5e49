/-! # The calendar

Days are counted from 1970-01-01 in the proleptic Gregorian calendar, seconds from midnight of that
day in universal time.
-/

namespace StackVM.Calendar

/-- A day of the calendar. -/
structure Date where
  year : Int
  month : Nat
  day : Nat
deriving DecidableEq, Repr

structure Time where
  hour : Nat
  minute : Nat
  second : Nat
deriving DecidableEq, Repr

/-- A year of 366 days. -/
def isLeapYear (year : Int) : Bool := year % 4 == 0 && (year % 100 != 0 || year % 400 == 0)

/-- The number of days of a month; zero for a month that does not exist. -/
def daysInMonth (year : Int) (month : Nat) : Nat :=
  match month with
  | 1 | 3 | 5 | 7 | 8 | 10 | 12 => 31
  | 4 | 6 | 9 | 11 => 30
  | 2 => if isLeapYear year then 29 else 28
  | _ => 0

def Date.isValid (d : Date) : Bool := 1 ≤ d.day && d.day ≤ daysInMonth d.year d.month

/-- The time exists; there are no leap seconds. -/
def Time.isValid (t : Time) : Bool := t.hour < 24 && t.minute < 60 && t.second < 60

/-- The years that can be represented. -/
def minYear : Int := -262143

/-- The last year that can be represented. -/
def maxYear : Int := 262142

/-- Days of the months before this one, the year starting in March. -/
def daysBeforeMonth (shifted : Nat) : Nat := (153 * shifted + 2) / 5

/-- Days from 1970-01-01 to a date. The year is taken to start in March, so that a leap day is its
last day; four hundred years are 146097 days. -/
def dayNumber (d : Date) : Int :=
  let year := if d.month ≤ 2 then d.year - 1 else d.year
  let shifted := (d.month + 9) % 12
  let era := year / 400
  let yearOfEra := year % 400
  let dayOfYear : Int := (daysBeforeMonth shifted : Int) + d.day - 1
  era * 146097 + yearOfEra * 365 + yearOfEra / 4 - yearOfEra / 100 + dayOfYear - 719468

def dateOf (days : Int) : Date :=
  let shifted := days + 719468
  let era := shifted / 146097
  let dayOfEra := (shifted % 146097).toNat
  let yearOfEra := (dayOfEra - dayOfEra / 1460 + dayOfEra / 36524 - dayOfEra / 146096) / 365
  let dayOfYear := dayOfEra - (365 * yearOfEra + yearOfEra / 4 - yearOfEra / 100)
  let shiftedMonth := (5 * dayOfYear + 2) / 153
  let month := if shiftedMonth < 10 then shiftedMonth + 3 else shiftedMonth - 9
  { year := (yearOfEra : Int) + era * 400 + if month ≤ 2 then 1 else 0
    month
    day := dayOfYear - daysBeforeMonth shiftedMonth + 1 }

/-- Seconds of a day before a time. -/
def Time.seconds (t : Time) : Nat := t.hour * 3600 + t.minute * 60 + t.second

/-- The time of a number of seconds after midnight. -/
def timeOf (seconds : Nat) : Time := ⟨seconds / 3600, seconds / 60 % 60, seconds % 60⟩

/-- Seconds from the start of 1970 to a moment, if it exists and can be represented. -/
def epoch? (d : Date) (t : Time) : Option Int :=
  if d.isValid && t.isValid && minYear ≤ d.year && d.year ≤ maxYear then
    some (dayNumber d * 86400 + t.seconds)
  else none

/-- The first second that can be represented. -/
def minEpoch : Int := -8334601228800

/-- The last second that can be represented. -/
def maxEpoch : Int := 8210266876799

/-- The moment of a number of seconds from the start of 1970, if it can be represented. -/
def moment? (epoch : Int) : Option (Date × Time) :=
  if minEpoch ≤ epoch && epoch ≤ maxEpoch then
    some (dateOf (epoch / 86400), timeOf (epoch % 86400).toNat)
  else none

end StackVM.Calendar
