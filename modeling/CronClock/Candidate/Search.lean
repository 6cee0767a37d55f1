import CronClock.Calendar.Moment
import CronClock.Candidate

/-! # The search for a candidate's next moment

From a moment on, the search corrects the coarsest field that differs from the candidate: forward to
the field's value if it lies ahead in the next coarser unit, else to the beginning of the next coarser
unit. A moment that agrees in all fields but that its zone's clocks skip is left at the first whole
minute that they show. The search ends when a moment agrees and is shown, when it would leave the
calendar or set a field to a value that the field never has, or after `Candidate.stepLimit` steps. -/
set_option autoImplicit false
namespace CronClock

/-- What one step of the search comes to. -/
inductive Progress where
  | arrived (moment : Moment)
  | moved (moment : Moment)
  | lost
  deriving DecidableEq, Repr

namespace Progress

def ofMove : Except TimeFault Moment → Progress
  | .ok moment => moved moment
  | .error _ => lost

end Progress

namespace Moment

def resetTo (wall : Int) (moment : Moment) : Moment := { moment with wall := wall }

def atDate? (date : Date) (moment : Moment) : Except TimeFault Moment :=
  if date.isValid then .ok (moment.resetTo (Wall.midnight date)) else .error .outsideCalendar

def nextUnit? (unit : Int) (moment : Moment) : Except TimeFault Moment :=
  (moment.resetTo (Wall.truncate unit moment.wall)).plus? unit

def atCount? (unit lesser count : Int) (moment : Moment) : Except TimeFault Moment :=
  if 0 ≤ count ∧ count * lesser < unit then
    .ok (moment.resetTo (Wall.truncate unit moment.wall + count * lesser))
  else .error .outsideCalendar

def nextShownMinute (moment : Moment) : Except TimeFault Moment :=
  let next := Wall.truncate Wall.minute moment.wall + Wall.minute
  if Wall.inCalendar next then
    match isShown? ⟨next, false, moment.zone⟩ with
    | .ok true => .ok ⟨next, false, moment.zone⟩
    | .ok false => nextShownMinute ⟨next, false, moment.zone⟩
    | .error fault => .error fault
  else .error .outsideCalendar
termination_by (Wall.limit - moment.wall).toNat
decreasing_by
  have advanced : moment.wall < Wall.truncate Wall.minute moment.wall + Wall.minute := by
    simp only [Wall.truncate, Wall.minute]; omega
  have bounded : Wall.truncate Wall.minute moment.wall + Wall.minute < Wall.limit := by
    have inside : Wall.inCalendar (Wall.truncate Wall.minute moment.wall + Wall.minute) = true := by
      assumption
    simp only [Wall.inCalendar, Bool.and_eq_true, decide_eq_true_eq] at inside
    exact inside.2
  omega

end Moment

namespace Candidate

def differing (target : Option Int) (present : Int) : Option Int :=
  match target with
  | some value => if value = present then none else some value
  | none => none

def enterMonth (month : Int) (moment : Moment) : Progress :=
  let date := Wall.date moment.wall
  .ofMove (moment.atDate? ⟨if date.month < month then date.year else date.year + 1, month, 1⟩)

def enterDay (day : Int) (moment : Moment) : Progress :=
  let date := Wall.date moment.wall
  .ofMove (moment.atDate?
    (if date.day < day ∧ day ≤ daysInMonth date.year date.month then ⟨date.year, date.month, day⟩
      else date.firstOfNextMonth))

def enterHour (hour : Int) (moment : Moment) : Progress :=
  .ofMove (if Wall.hourOfDay moment.wall < hour then moment.atCount? Wall.day Wall.hour hour
    else moment.nextUnit? Wall.day)

def enterMinute (minute : Int) (moment : Moment) : Progress :=
  .ofMove (if Wall.minuteOfHour moment.wall < minute then moment.atCount? Wall.hour Wall.minute minute
    else moment.nextUnit? Wall.hour)

def enterSecond (second : Int) (moment : Moment) : Progress :=
  .ofMove (if Wall.secondOfMinute moment.wall < second then
      moment.atCount? Wall.minute Wall.second second
    else moment.nextUnit? Wall.minute)

/-- A moment that agrees with the candidate is the answer if it is shown. -/
def settle (moment : Moment) : Progress :=
  match moment.isShown? with
  | .ok true => .arrived moment
  | .ok false => .ofMove moment.nextShownMinute
  | .error _ => .lost

def step (candidate : Candidate) (moment : Moment) : Progress :=
  match differing candidate.month (Wall.date moment.wall).month with
  | some month => enterMonth month moment
  | none =>
    match differing candidate.day (Wall.date moment.wall).day with
    | some day => enterDay day moment
    | none =>
      match differing candidate.hour (Wall.hourOfDay moment.wall) with
      | some hour => enterHour hour moment
      | none =>
        match differing candidate.minute (Wall.minuteOfHour moment.wall) with
        | some minute => enterMinute minute moment
        | none =>
          match differing candidate.second (Wall.secondOfMinute moment.wall) with
          | some second => enterSecond second moment
          | none => settle moment

def search (candidate : Candidate) : Nat → Moment → Option Moment
  | 0, _ => none
  | steps + 1, moment =>
    match candidate.step moment with
    | .arrived found => some found
    | .moved next => search candidate steps next
    | .lost => none

def stepLimit : Nat := 1000

/-- The first moment at or after a reference that the candidate finds. A reference within a second
counts from the next whole one, which must be in the calendar. -/
def next? (candidate : Candidate) (reference : Moment) : Except TimeFault (Option Moment) := do
  return candidate.search stepLimit (← reference.wholeSecond?)

inductive SearchFault where
  | unknownMonth
  | time (fault : TimeFault)
  deriving DecidableEq, Repr

/-- The same for a candidate that need not be possible. -/
def nearest? (candidate : Candidate) (reference : Moment) :
    Except SearchFault (Option Moment) :=
  match candidate.isPossible? with
  | none => .error .unknownMonth
  | some false => .ok none
  | some true => (candidate.next? reference).mapError .time

end Candidate

end CronClock
