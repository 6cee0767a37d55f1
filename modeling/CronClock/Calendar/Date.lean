/-! # Dates of the Gregorian calendar

Dates from 1 January of year 1 to 31 December of year 9999, counted by days from the first one.
`Date.dayNumber` and `Date.ofDayNumber` turn dates into day numbers and back. -/
set_option autoImplicit false
namespace CronClock

structure Date where
  year : Int
  month : Int
  day : Int
  deriving DecidableEq, Repr

def isLeapYear (year : Int) : Bool :=
  year % 4 == 0 && (year % 100 != 0 || year % 400 == 0)

def daysInMonth (year month : Int) : Int :=
  if month = 2 then (if isLeapYear year then 29 else 28)
  else if month = 4 ∨ month = 6 ∨ month = 9 ∨ month = 11 then 30
  else 31

/-- The days from 1 January of year 1 to 1 January of the year. -/
def daysBeforeYear (year : Int) : Int :=
  365 * (year - 1) + (year - 1) / 4 - (year - 1) / 100 + (year - 1) / 400

/-- The days by which February falls short of 30. -/
def februaryGap (year : Int) : Int := if isLeapYear year then 1 else 2

/-- The days from 1 January to the first of the month. The months lie as if they had 30 and 31 days
by turns from January on and from August on, less the days that February lacks. -/
def daysBeforeMonth (year month : Int) : Int :=
  (367 * month - 362) / 12 - (if month ≤ 2 then 0 else februaryGap year)

/-- The year that holds a day: the mean year gives it up to one, the first days decide. -/
def yearOfDay (dayNumber : Int) : Int :=
  let near := 400 * dayNumber / 146097 + 1
  if dayNumber < daysBeforeYear near then near - 1
  else if daysBeforeYear (near + 1) ≤ dayNumber then near + 1
  else near

def monthOfDay (year dayOfYear : Int) : Int :=
  let correction := if dayOfYear < daysBeforeMonth year 3 then 0 else februaryGap year
  (12 * (dayOfYear + correction) + 373) / 367

namespace Date

def dayNumber (date : Date) : Int :=
  daysBeforeYear date.year + daysBeforeMonth date.year date.month + date.day - 1

def ofDayNumber (dayNumber : Int) : Date :=
  let year := yearOfDay dayNumber
  let dayOfYear := dayNumber - daysBeforeYear year
  let month := monthOfDay year dayOfYear
  ⟨year, month, dayOfYear - daysBeforeMonth year month + 1⟩

def isValid (date : Date) : Bool :=
  1 ≤ date.year && date.year ≤ 9999 && 1 ≤ date.month && date.month ≤ 12
    && 1 ≤ date.day && date.day ≤ daysInMonth date.year date.month

def firstOfNextMonth (date : Date) : Date :=
  if date.month = 12 then ⟨date.year + 1, 1, 1⟩ else ⟨date.year, date.month + 1, 1⟩

end Date

def calendarDays : Int := 3652059

def weekdayName (dayNumber : Int) : String :=
  match (dayNumber % 7).toNat with
  | 0 => "Monday"
  | 1 => "Tuesday"
  | 2 => "Wednesday"
  | 3 => "Thursday"
  | 4 => "Friday"
  | 5 => "Saturday"
  | _ => "Sunday"

end CronClock
