import CronClock.Calendar.Zone

/-! # System time

A reading without a zone is one of the machine's clocks. The machine only tells what its clocks show at
an instant, so the mark of a reading and the instant of a reading are found by asking it about instants
a day apart. -/
set_option autoImplicit false
namespace CronClock

inductive TimeFault where
  /-- A wall time or an instant before or after all of the calendar. -/
  | outsideCalendar
  /-- An instant that the machine was asked about, where its clocks are outside the calendar. -/
  | outsideSystemTime
  deriving DecidableEq, Repr

namespace ZoneRules

variable (system : ZoneRules)

def wallAt (instant : Int) : Int := (system.reading instant).wall

/-- What the machine's clocks show. If they have been set back within a day, the reading is marked later
when it came up before that. -/
def systemReading (instant : Int) : Reading :=
  let change := system.wallAt instant - system.wallAt (instant - Wall.day) - Wall.day
  ⟨system.wallAt instant,
    change < 0 && system.wallAt (instant + change) == system.wallAt instant⟩

def systemOffset? (instant : Int) : Except TimeFault Int :=
  if Wall.inCalendar (system.wallAt instant) then .ok (system.wallAt instant - instant)
  else .error .outsideSystemTime

/-- An instant at which the machine's clocks show a wall time, the earlier or the later of two. For a
wall time that they skip it is one near the shift. -/
def systemPlace? (given : Reading) : Except TimeFault Int := do
  let guess ← system.systemOffset? given.wall
  let first := given.wall - guess
  let found ← system.systemOffset? first
  if found = guess then
    let other ← system.systemOffset? (if given.later then first + Wall.day else first - Wall.day)
    if other = guess then return first
    let second := given.wall - other
    return if (← system.systemOffset? second) = other then second else first
  else
    let second := given.wall - found
    if (← system.systemOffset? second) = found then return second
    return if given.later then min first second else max first second

/-- The instant of a reading of the machine's clocks. -/
def systemInstant? (given : Reading) : Except TimeFault Int := do
  return given.wall - (← system.systemOffset? (← system.systemPlace? given))

end ZoneRules

end CronClock
