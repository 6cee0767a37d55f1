import CronClock.Schedule

/-! # Upcoming moments

The moments of a schedule one after another: each search starts one second of wall time after the
moment before it. Whatever goes wrong on the way ends the list and is reported with it. -/
set_option autoImplicit false
namespace CronClock

structure Upcoming where
  moments : List Moment
  fault : Option TimeFault
  deriving DecidableEq, Repr

namespace Upcoming

def nothing : Upcoming := ⟨[], none⟩

def cons (moment : Moment) (rest : Upcoming) : Upcoming := ⟨moment :: rest.moments, rest.fault⟩

end Upcoming

namespace Schedule

/-- Up to `count` moments from a reference on. The second after the last of them has to be in the
calendar too. -/
def upcoming (schedule : Schedule) : Nat → Moment → Upcoming
  | 0, _ => .nothing
  | count + 1, reference =>
    match schedule.next? reference with
    | .error fault => ⟨[], some fault⟩
    | .ok none => .nothing
    | .ok (some moment) =>
      match moment.plus? Wall.second with
      | .error fault => ⟨[moment], some fault⟩
      | .ok following => .cons moment (upcoming schedule count following)

end Schedule

end CronClock
