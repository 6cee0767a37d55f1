import CronClock.Calendar.ZoneChoice
import CronClock.Candidate.Search

/-! # Schedules

A schedule matches every instant or the moments of a list of candidates, in a zone or, without one, in
the zone of whatever reference it is asked about. Its next moment at or after a reference is the one
with the least wall time among its candidates' next moments, the first candidate's of several. -/
set_option autoImplicit false
namespace CronClock

inductive Timetable where
  | anyTime
  | listed (candidates : List Candidate)
  deriving DecidableEq

structure Schedule where
  timetable : Timetable
  zone : Option Zone
  expression : Option Expression
  deriving DecidableEq

inductive BuildFault where
  | text (fault : ScheduleFault)
  | zone (fault : ZoneFault)
  /-- A candidate with a day and a month that no month has for its number. -/
  | unknownMonth
  deriving DecidableEq, Repr

namespace Schedule

def possibleOnly? : List Candidate → Except BuildFault (List Candidate)
  | [] => .ok []
  | candidate :: rest =>
    match candidate.isPossible? with
    | none => .error .unknownMonth
    | some true => (possibleOnly? rest).map (candidate :: ·)
    | some false => possibleOnly? rest

def ofCandidates? (zone : Option Zone) (expression : Option Expression)
    (candidates : List Candidate) : Except BuildFault Schedule := do
  return ⟨.listed (← possibleOnly? candidates), zone, expression⟩

/-- The schedule of an expression. A fault of the text comes before one of the zone. -/
def ofExpression? (zone : Except ZoneFault (Option Zone)) (expression : Expression) :
    Except BuildFault Schedule := do
  let expansions ← expression.expand.mapError .text
  let zone ← zone.mapError .zone
  if expansions.isEvery then return ⟨.anyTime, zone, some expression⟩
  else ofCandidates? zone (some expression) (← (Candidate.assemble expansions).mapError .text)

def ofText? (zone : Except ZoneFault (Option Zone)) (text : String) : Except BuildFault Schedule := do
  ofExpression? zone (← (Expression.ofText? text).mapError .text)

/-- What the schedule's clock shows at an instant: system time if the schedule has no zone. -/
def clock? (system : ZoneRules) (schedule : Schedule) (instant : Int) : Except TimeFault Moment :=
  match schedule.zone with
  | none =>
    let reading := system.systemReading instant
    if Wall.inCalendar reading.wall then .ok ⟨reading.wall, reading.later, none⟩
    else .error .outsideSystemTime
  | some zone => Moment.atInstant? zone instant

/-- Brings a reference into the schedule's zone; a reference without a zone is taken to be in it. -/
def localize? (schedule : Schedule) (reference : Moment) : Except TimeFault Moment :=
  match schedule.zone with
  | none => .ok reference
  | some zone =>
    match reference.zone with
    | none => .ok { reference with zone := some zone }
    | some own => reference.inZone? own zone

def earliest : List (Option Moment) → Option Moment
  | [] => none
  | none :: rest => earliest rest
  | some moment :: rest =>
    match earliest rest with
    | none => some moment
    | some other => if other.wall < moment.wall then some other else some moment

/-- The schedule's next moment at or after a reference, if there is any in the calendar. -/
def next? (schedule : Schedule) (reference : Moment) : Except TimeFault (Option Moment) := do
  let start ← schedule.localize? reference
  match schedule.timetable with
  | .anyTime => return some start
  | .listed candidates => return earliest (← candidates.mapM fun candidate => candidate.next? start)

def nextOrSame? (schedule : Schedule) (reference : Moment) : Except TimeFault Moment := do
  let start ← schedule.localize? reference
  return (← schedule.next? start).getD start

def untilNext? (system : ZoneRules) (schedule : Schedule) (reference : Moment) :
    Except TimeFault (Option Int) := do
  let start ← schedule.localize? reference
  match ← schedule.next? start with
  | none => return none
  | some moment => return some (← start.elapsed? system moment)

def expressionText (schedule : Schedule) : String :=
  match schedule.expression with
  | none => "None"
  | some expression => expression.toText

def kindName (schedule : Schedule) : String :=
  match schedule.timetable with
  | .anyTime => "AnyTimeScheduler"
  | .listed _ => "CronDateTimeScheduler"

def label (schedule : Schedule) : String :=
  schedule.kindName ++ "(" ++ Text.quote schedule.expressionText ++ ", tz="
    ++ zoneLabel schedule.zone ++ ")"

end Schedule

end CronClock
