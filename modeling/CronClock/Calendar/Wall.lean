import CronClock.Calendar.Date

/-! # Wall time

What a clock on a wall shows, dates included, is a count of microseconds from midnight of the
calendar's first day. Spans and offsets are counts of microseconds too. -/
set_option autoImplicit false
namespace CronClock

namespace Wall

def second : Int := 1000000
def minute : Int := 60000000
def hour : Int := 3600000000
def day : Int := 86400000000

/-- The first count past the calendar's last day. -/
def limit : Int := calendarDays * day

def inCalendar (wall : Int) : Bool := 0 ≤ wall && wall < limit

def dayNumber (wall : Int) : Int := wall / day

def date (wall : Int) : Date := Date.ofDayNumber (Wall.dayNumber wall)

def midnight (date : Date) : Int := date.dayNumber * day

def hourOfDay (wall : Int) : Int := wall % day / hour

def minuteOfHour (wall : Int) : Int := wall % hour / minute

def secondOfMinute (wall : Int) : Int := wall % minute / second

def microsecond (wall : Int) : Int := wall % second

def truncate (unit : Int) (wall : Int) : Int := wall - wall % unit

def ofTime (date : Date) (hours minutes seconds microseconds : Int) : Int :=
  midnight date + hours * hour + minutes * minute + seconds * second + microseconds

end Wall

end CronClock
