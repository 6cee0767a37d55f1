import CronClock.Calendar.Moment

/-! # Moments in ISO 8601 text

`Moment.isoText` writes a moment with the fewest parts that say all: microseconds and seconds of the
offset appear only when they are not zero. `Moment.ofIsoText?` reads that and the other forms of the
standard: dates without dashes, week dates, times without colons, times cut short, `Z`. -/
set_option autoImplicit false
namespace CronClock

def padded (width : Nat) (number : Int) : String :=
  let digits := toString number
  String.ofList (List.replicate (width - digits.length) '0') ++ digits

namespace Moment

def fractionText (microseconds : Int) : String :=
  if microseconds = 0 then "" else "." ++ padded 6 microseconds

def offsetText (offset : Int) : String :=
  let size : Int := offset.natAbs
  let seconds := size % Wall.minute
  (if offset < 0 then "-" else "+") ++ padded 2 (size / Wall.hour) ++ ":"
    ++ padded 2 (size % Wall.hour / Wall.minute)
    ++ (if seconds = 0 then ""
        else ":" ++ padded 2 (seconds / Wall.second) ++ fractionText (seconds % Wall.second))

def dateText (date : Date) : String :=
  padded 4 date.year ++ "-" ++ padded 2 date.month ++ "-" ++ padded 2 date.day

def timeText (wall : Int) : String :=
  padded 2 (Wall.hourOfDay wall) ++ ":" ++ padded 2 (Wall.minuteOfHour wall) ++ ":"
    ++ padded 2 (Wall.secondOfMinute wall)

def isoText (moment : Moment) : String :=
  dateText (Wall.date moment.wall) ++ "T" ++ timeText moment.wall
    ++ fractionText (Wall.microsecond moment.wall)
    ++ (match moment.zone with
        | none => ""
        | some zone => offsetText (zone.offsetShown moment.reading))

end Moment

namespace IsoText

def readDigits : Nat → Nat → List Char → Option (Nat × List Char)
  | 0, value, text => some (value, text)
  | count + 1, value, c :: rest =>
    if c.isDigit then readDigits count (10 * value + (c.toNat - '0'.toNat)) rest else none
  | _ + 1, _, [] => none

/-- The Monday of a year's first week, which holds 4 January. -/
def firstMonday (year : Int) : Int :=
  let fourth := daysBeforeYear year + 3
  fourth - fourth % 7

/-- Whether the year has a week 53: it begins on a Thursday, or is a leap year and begins on a
Wednesday. -/
def hasLongWeeks (year : Int) : Bool :=
  let weekday := daysBeforeYear year % 7
  weekday == 3 || (weekday == 2 && isLeapYear year)

def ofWeek? (year week weekday : Int) : Option Date :=
  if 1 ≤ year ∧ 1 ≤ week ∧ (week ≤ 52 ∨ (week = 53 ∧ hasLongWeeks year))
      ∧ 1 ≤ weekday ∧ weekday ≤ 7 then
    some (Date.ofDayNumber (firstMonday year + (week - 1) * 7 + weekday - 1))
  else none

def dropDash (dashed : Bool) (text : List Char) : Option (List Char) :=
  if dashed then
    match text with
    | '-' :: rest => some rest
    | _ => none
  else some text

def readWeekDate (year : Nat) (dashed : Bool) (text : List Char) : Option Date := do
  let (week, rest) ← readDigits 2 0 text
  if rest = [] then ofWeek? year week 1
  else
    let (weekday, _) ← readDigits 1 0 (← dropDash dashed rest)
    ofWeek? year week weekday

def readMonthDate (year : Nat) (dashed : Bool) (text : List Char) : Option Date := do
  let (month, rest) ← readDigits 2 0 text
  let (day, rest) ← readDigits 2 0 (← dropDash dashed rest)
  if rest = [] then some ⟨year, month, day⟩ else none

def readDate (text : List Char) : Option Date := do
  let (year, rest) ← readDigits 4 0 text
  let dashed := rest.head? == some '-'
  let rest := if dashed then rest.tail else rest
  match rest with
  | 'W' :: week => readWeekDate year dashed week
  | _ => readMonthDate year dashed rest

/-- Where the date ends. After a compact week the number of digits that follow decides whether a
weekday belongs to the date, since hours come in pairs of digits; after a week with dashes a dash and
a digit that is followed by another digit belong to the time. -/
def dateLength (text : List Char) : Nat :=
  if text.length = 7 then 7
  else if text[4]? = some '-' then
    if text[5]? = some 'W' then
      if text[8]? = some '-' then
        if ((text[10]?).map Char.isDigit).getD false then 8 else 10
      else 8
    else 10
  else if text[4]? = some 'W' then
    let digits := 7 + ((text.drop 7).takeWhile Char.isDigit).length
    if digits < 9 then digits else if digits % 2 = 0 then 7 else 8
  else 8

/-- A fraction's microseconds from its first six digits; digits after them may follow. Also whether
anything but digits is left. -/
def readFraction (text : List Char) : Option (Nat × Bool) := do
  let count := min 6 text.length
  let (value, rest) ← readDigits count 0 text
  return (value * Nat.pow 10 (6 - count), rest.dropWhile Char.isDigit != [])

/-- Hours, minutes, seconds and microseconds, as a count of microseconds with the hours, minutes and
seconds each within bounds of their own or not. -/
structure ClockTime where
  hours : Nat
  minutes : Nat
  seconds : Nat
  microseconds : Nat

namespace ClockTime

def isValid (time : ClockTime) : Bool :=
  time.hours < 24 && time.minutes < 60 && time.seconds < 60

def span (time : ClockTime) : Int :=
  time.hours * Wall.hour + time.minutes * Wall.minute + time.seconds * Wall.second + time.microseconds

def wholeSpan (time : ClockTime) : Int :=
  time.hours * Wall.hour + time.minutes * Wall.minute + time.seconds * Wall.second

end ClockTime

/-- Reads up to three pairs of digits and a fraction after the last of them. The first separator says
whether there are separators. A single character may be left at the end of a pair; the flag of the
result tells that something is left. -/
def readPairs (separated : Option Bool) : Nat → List Nat → List Char → Option (ClockTime × Bool)
  | 0, pairs, text => do
    let (microseconds, left) ← readFraction text
    return (⟨pairs.getD 0 0, pairs.getD 1 0, pairs.getD 2 0, microseconds⟩, left)
  | count + 1, pairs, text => do
    let (pair, rest) ← readDigits 2 0 text
    let pairs := pairs ++ [pair]
    let time (microseconds : Nat) : ClockTime :=
      ⟨pairs.getD 0 0, pairs.getD 1 0, pairs.getD 2 0, microseconds⟩
    match rest with
    | [] => some (time 0, false)
    | [_] => some (time 0, true)
    | c :: more =>
      let separated := separated.getD (c == ':')
      if separated && c == ':' then readPairs (some separated) count pairs more
      else if c = '.' ∨ c = ',' then do
        let (microseconds, left) ← readFraction more
        return (time microseconds, left)
      else if separated then none
      else readPairs (some separated) count pairs rest

def readClock (text : List Char) : Option (ClockTime × Bool) := readPairs none 3 [] text

def readOffset (negative : Bool) (text : List Char) : Option Zone := do
  let (time, left) ← readClock text
  if left then none
  else if time.wholeSpan = 0 then some .universal
  else if Wall.day ≤ time.span then none
  else some (.ofWrittenOffset (if negative then -time.span else time.span))

def endsClock (c : Char) : Bool := c == '+' || c == '-' || c == 'Z'

def readTime (text : List Char) : Option (ClockTime × Option Zone) := do
  let (time, left) ← readClock (text.takeWhile (!endsClock ·))
  match text.dropWhile (!endsClock ·) with
  | [] => if left then none else some (time, none)
  | 'Z' :: rest => if rest = [] then some (time, some .universal) else none
  | sign :: rest => return (time, some (← readOffset (sign == '-') rest))

def afterSeparator : List Char → List Char
  | [] => []
  | lead :: rest =>
    if lead.toNat < 0x80 then rest
    else if 0xF0 ≤ lead.toNat then rest.drop 3
    else if 0xE0 ≤ lead.toNat then rest.drop 2
    else rest.drop 1

def readMoment (bytes : List Char) : Option Moment := do
  if bytes.length < 7 then none
  else
    let length := dateLength bytes
    let date ← readDate (bytes.take length)
    let (time, zone) ←
      if bytes.length ≤ length then some (⟨0, 0, 0, 0⟩, none)
      else readTime (afterSeparator (bytes.drop length))
    if date.isValid && time.isValid then
      some ⟨Wall.midnight date + time.span, false, zone⟩
    else none

end IsoText

/-- The moment that a text denotes in one of the forms of the standard. -/
def Moment.ofIsoText? (text : String) : Option Moment :=
  IsoText.readMoment (text.toUTF8.toList.map fun byte => Char.ofNat byte.toNat)

end CronClock
