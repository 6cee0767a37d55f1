import CronClock.Schedule

/-! # The journal

What the parts of the library note down while they work: the level, the part and a message. The notes
follow from what is worked on, so they are functions of it. -/
set_option autoImplicit false
namespace CronClock

inductive Level where
  | debug
  | info
  | warning
  deriving DecidableEq, Repr

namespace Level

def name : Level → String
  | debug => "DEBUG"
  | info => "INFO"
  | warning => "WARNING"

def rank : Level → Nat
  | debug => 10
  | info => 20
  | warning => 30

def rankNames : List (String × Nat) :=
  [("NOTSET", 0), ("DEBUG", debug.rank), ("INFO", info.rank), ("WARN", warning.rank),
    ("WARNING", warning.rank), ("ERROR", 40), ("FATAL", 50), ("CRITICAL", 50)]

def rankNamed? (name : String) : Option Nat :=
  rankNames.lookup (String.ofList (name.toList.map Text.asciiCapital))

end Level

/-- The part of the library that a note comes from. -/
inductive Origin where
  | fields
  | schedules
  | firing
  /-- What puts the loops to sleep and wakes them. -/
  | sleeping
  deriving DecidableEq, Repr

def Origin.name : Origin → String
  | fields => "pykron.cron.parser"
  | schedules => "pykron.cron.schedule"
  | firing => "pykron.cron.executor"
  | sleeping => "asyncio"

structure Note where
  level : Level
  origin : Origin
  message : String
  deriving DecidableEq, Repr

namespace Journal

def listText (numbers : List Int) : String := "[" ++ Text.join ", " (numbers.map toString) ++ "]"

/-- A field that was expanded to a set is noted; one that is unconstrained is not. -/
def ofExpansion (text : String) : Expansion → List Note
  | .every => []
  | .only values =>
    [⟨.debug, .fields, "Expanded " ++ Text.quote text ++ " to " ++ listText values.toList⟩]

/-- The notes of expanding fields in order, up to the first faulty one. -/
def ofFields (expression : Expression) : List Field → List Note
  | [] => []
  | field :: rest =>
    match expression.expandField field with
    | .ok expansion => ofExpansion (expression.get field) expansion ++ ofFields expression rest
    | .error _ => []

def ofExpand (expression : Expression) : List Note := ofFields expression Field.all

def ofExpandText (text : String) : List Note :=
  match Expression.ofText? text with
  | .ok expression => ofExpand expression
  | .error _ => []

/-- A schedule without a possible candidate is worth a warning. -/
def ofSchedule (schedule : Schedule) : List Note :=
  if schedule.timetable = .listed [] then
    [⟨.warning, .schedules,
      "Schedule " ++ Text.quote schedule.expressionText ++ " matches no calendar date"⟩]
  else []

/-- What is noted when all fields are expanded and the zone is found. -/
def ofExpansions (expression : Expression) (expansions : Expansions) : List Note :=
  if expansions.isEvery then
    [⟨.debug, .schedules, "Schedule " ++ Text.quote expression.toText ++ " matches every instant"⟩]
  else match Candidate.assemble expansions with
    | .ok candidates =>
      [⟨.debug, .schedules, "Built schedule " ++ Text.quote expression.toText ++ " with "
        ++ toString candidates.length ++ " candidates"⟩]
    | .error _ => []

def ofBuild (zone : Except ZoneFault (Option Zone)) (expression : Expression) : List Note :=
  ofExpand expression
    ++ (match expression.expand, zone with
        | .ok expansions, .ok _ => ofExpansions expression expansions
        | _, _ => [])
    ++ (match Schedule.ofExpression? zone expression with
        | .ok schedule => ofSchedule schedule
        | .error _ => [])

def ofBuildText (zone : Except ZoneFault (Option Zone)) (text : String) : List Note :=
  match Expression.ofText? text with
  | .ok expression => ofBuild zone expression
  | .error _ => []

end Journal

end CronClock
