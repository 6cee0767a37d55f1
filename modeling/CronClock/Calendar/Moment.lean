import CronClock.Calendar.SystemTime

/-! # Moments

A moment is a wall time with a zone or without one. A moment without a zone is taken for system time.
`Moment.instant?` places a moment in universal time, `Moment.inZone?` reads it off another zone's
clocks, and `Moment.isShown?` asks whether the clocks of its own zone ever show it. Everything happens
within the calendar. -/
set_option autoImplicit false
namespace CronClock

structure Moment where
  wall : Int
  later : Bool
  zone : Option Zone
  deriving DecidableEq, Repr

namespace Moment

def reading (moment : Moment) : Reading := ⟨moment.wall, moment.later⟩

def ofReading (zone : Zone) (reading : Reading) : Moment :=
  ⟨reading.wall, reading.later, some zone⟩

def checked (wall : Int) : Except TimeFault Int :=
  if Wall.inCalendar wall then .ok wall else .error .outsideCalendar

def instantIn? (zone : Zone) (reading : Reading) : Except TimeFault Int :=
  checked (reading.wall - zone.offsetShown reading)

/-- The moment in universal time, by the clocks of the machine if it has no zone. -/
def instant? (system : ZoneRules) (moment : Moment) : Except TimeFault Int :=
  match moment.zone with
  | none => do checked (← system.systemInstant? moment.reading)
  | some zone => instantIn? zone moment.reading

def atInstant? (zone : Zone) (instant : Int) : Except TimeFault Moment := do
  let reading := zone.reading instant
  let _ ← checked reading.wall
  return ofReading zone reading

def inZone? (own zone : Zone) (moment : Moment) : Except TimeFault Moment :=
  if own.isSame zone then .ok moment
  else do atInstant? zone (← instantIn? own moment.reading)

/-- Whether going to universal time and back leads to the same wall time. -/
def isShown? (moment : Moment) : Except TimeFault Bool :=
  match moment.zone with
  | none => .ok true
  | some zone => do
    let back ← atInstant? zone (← instantIn? zone moment.reading)
    return back.wall == moment.wall

/-- The moment with its wall time moved on, and the mark of a later reading gone. -/
def plus? (span : Int) (moment : Moment) : Except TimeFault Moment := do
  return ⟨← checked (moment.wall + span), false, moment.zone⟩

/-- The moment itself if it is a whole second, or else the next whole second on the wall. -/
def wholeSecond? (moment : Moment) : Except TimeFault Moment :=
  if Wall.microsecond moment.wall = 0 then .ok moment
  else plus? Wall.second { moment with wall := Wall.truncate Wall.second moment.wall }

def elapsed? (system : ZoneRules) (start finish : Moment) : Except TimeFault Int := do
  let finishInstant ← finish.instant? system
  let startInstant ← start.instant? system
  return finishInstant - startInstant

end Moment

end CronClock
