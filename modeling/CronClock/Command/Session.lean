import CronClock.Command
import CronClock.Description
import CronClock.Firing
import CronClock.Printer
import CronClock.Schedule.Upcoming

/-! # Sessions

A session runs one command line. It hands what it shows to a printer and comes to an exit: a status, or
a crash that the program has no words for. What was printed before the exit stays. -/
set_option autoImplicit false
namespace CronClock

structure Surroundings where
  printer : Printer
  /-- The clocks of the machine. -/
  system : ZoneRules
  zones : ZoneTable
  defaultZone : Option String
  levelName : String
  now : Int
  pause : Int
  /-- How many sleeps come to an end before the session is interrupted. -/
  sleeps : Option Nat

inductive Crash where
  | unknownLevel
  | unshowable (fault : PrintFault)
  | unbuilt (fault : BuildFault)
  | time (fault : TimeFault)
  deriving DecidableEq, Repr

inductive Exit where
  | status (code : Nat)
  | crash (crash : Crash)
  deriving DecidableEq, Repr

structure Report where
  output : List String
  errors : List String
  exit : Exit
  deriving DecidableEq, Repr

structure NoteFilter where
  leastRank : Nat
  verbose : Bool
  deriving DecidableEq, Repr

abbrev Session := ExceptT Exit (StateM Printed)

namespace Session

variable (printer : Printer)

/-- Prints lines, unless the printer refused to. -/
def print (result : Except PrintFault (List String)) : Session Unit :=
  match result with
  | .ok lines => modify fun printed => printed.append lines
  | .error fault => throw (.crash (.unshowable fault))

def say (marked : String) : Session Unit := print (printer.textLines? marked)

def crash {α : Type} (crash : Crash) : Session α := throw (.crash crash)

def giveUp {α : Type} (marked : String) : Session α := do
  say printer marked
  throw (.status 1)

def passes (filter : NoteFilter) (note : Note) : Bool := filter.leastRank ≤ note.level.rank

def noteText (filter : NoteFilter) (note : Note) : String :=
  if filter.verbose then note.origin.name ++ ": " ++ note.message else note.message

def printNote (filter : NoteFilter) (instant : Int) (printed : Printed) (note : Note) : Printed :=
  { printed.append (printer.noteLines printed.noted instant note.level.name (noteText filter note))
    with noted := some instant }

def hear (filter : NoteFilter) (instant : Int) (notes : List Note) : Session Unit :=
  modify fun printed => (notes.filter (passes filter)).foldl (printNote printer filter instant) printed

/-! ## Schedules -/

def zoneChoice : Option String → ZoneChoice
  | none => .byDefault
  | some name => .byName name

/-- Builds a schedule or says why there is none. -/
def schedule (around : Surroundings) (filter : NoteFilter) (expression : String)
    (zoneName : Option String) : Session Schedule := do
  let zone := (zoneChoice zoneName).resolve around.zones around.defaultZone
  hear around.printer filter around.now (Journal.ofBuildText zone expression)
  match Schedule.ofText? zone expression with
  | .ok schedule => return schedule
  | .error (.text fault) =>
    if fault.isOfText then
      giveUp around.printer ("[red]Invalid expression:[/red] " ++ fault.message)
    else crash (.unbuilt (.text fault))
  | .error (.zone .unknownName) =>
    giveUp around.printer ("[red]Unknown timezone:[/red] " ++ zoneName.getD "None")
  | .error fault => crash (.unbuilt fault)

def ofTime {α : Type} : Except TimeFault α → Session α
  | .ok value => return value
  | .error fault => crash (.time fault)

/-- The moment that a search starts from: the present one unless a text gives another. -/
def reference (around : Surroundings) (schedule : Schedule) (start : Option String) :
    Session Moment := do
  let text := start.getD ""
  if text = "" then ofTime (schedule.clock? around.system around.now)
  else
    match Moment.ofIsoText? text with
    | some moment => return moment
    | none =>
      say around.printer ("[red]Invalid datetime:[/red] " ++ text)
      giveUp around.printer "Use ISO format: YYYY-MM-DDTHH:MM:SS"

/-! ## The commands -/

def momentRow (moment : Moment) (index : Nat) : List String :=
  [toString (index + 1), moment.isoText, weekdayName (Wall.dayNumber moment.wall)]

def momentTable (expression : String) (moments : List Moment) : Table :=
  ⟨"Next occurrences of '" ++ expression ++ "'", ["#", "Time", "Weekday"],
    moments.zipIdx.map fun (moment, index) => momentRow moment index⟩

def next (around : Surroundings) (filter : NoteFilter) (expression : String) (count : Nat)
    (start zoneName : Option String) : Session Unit := do
  let schedule ← schedule around filter expression zoneName
  let reference ← reference around schedule start
  match schedule.upcoming count reference with
  | ⟨_, some fault⟩ => crash (.time fault)
  | ⟨[], none⟩ =>
    giveUp around.printer "[yellow]This schedule never matches a calendar date.[/yellow]"
  | ⟨moments, none⟩ => print (around.printer.tableLines? (momentTable expression moments))

def judged (around : Surroundings) (filter : NoteFilter) (expression : String) : Session Bool := do
  hear around.printer filter around.now (Journal.ofExpandText expression)
  match judge expression with
  | .ok verdict => return verdict
  | .error fault => crash (.unbuilt (.text fault))

def validate (around : Surroundings) (filter : NoteFilter) (expression : String) :
    Session Unit := do
  if ← judged around filter expression then
    say around.printer ("[green]Valid:[/green] " ++ expression)
  else giveUp around.printer ("[red]Invalid:[/red] " ++ expression)

/-- Describes an expression that has been judged; it is expanded once more for that. -/
def describe (around : Surroundings) (filter : NoteFilter) (expression : String) :
    Session Unit := do
  let valid ← judged around filter expression
  hear around.printer filter around.now (Journal.ofExpandText expression)
  match Description.ofText expression with
  | .ok description =>
    if valid then say around.printer description else giveUp around.printer description
  | .error fault => crash (.unbuilt (.text fault))

/-- How many sleeps a session has until the calendar ends, each of them as long as the pause. -/
def sleepsLeft (around : Surroundings) : Nat :=
  around.sleeps.getD (2 * ((Wall.limit - around.now) / max 1 around.pause).toNat + 2)

def replay (filter : NoteFilter) : Nat → List Happening → Session Unit
  | _, [] => return ()
  | calls, .called moment _ :: rest => do
    say printer ("[green]" ++ toString (calls + 1) ++ "[/green] " ++ moment.isoText)
    replay filter (calls + 1) rest
  | calls, .noted note clock :: rest => do
    hear printer filter clock [note]
    replay filter calls rest
  | calls, _ :: rest => replay filter calls rest

/-- What a sleep of a watched schedule raises when somebody stops it. -/
inductive Interruption where
  | byKeyboard

/-- The block that asks for more until it was called a number of times. -/
def counting (limit : Option Nat) : Block Interruption Bool where
  answer calls := .ok ((limit.map fun count => decide (calls + 1 < count)).getD true)
  takes := .steady 0
  continues := id

def selectorNote : Note := ⟨.debug, .sleeping, "Using selector: EpollSelector"⟩

def beginWatch (around : Surroundings) (filter : NoteFilter) (expression : String)
    (zoneName : Option String) : Session Schedule := do
  let schedule ← schedule around filter expression zoneName
  say around.printer ("Watching '" ++ expression ++ "' (Ctrl+C to stop)")
  hear around.printer filter around.now [selectorNote]
  return schedule

def watch (around : Surroundings) (filter : NoteFilter) (expression : String) (count : Option Nat)
    (zoneName : Option String) : Session Unit := do
  let schedule ← beginWatch around filter expression zoneName
  let leg := Firing.run (schedule.planner around.system) around.pause (counting count) .whileContinued
    ⟨around.now, sleepsLeft around, 0, .byKeyboard⟩
  replay around.printer filter 0 leg.happenings
  match leg.result with
  | .error (.raised .byKeyboard) => say around.printer "\n[dim]Stopped[/dim]"
  | .error (.time fault) => crash (.time fault)
  | _ => return ()

def ofCommand (around : Surroundings) (filter : NoteFilter) : Command → Session Unit
  | .next expression count start zone => next around filter expression count start zone
  | .validate expression => validate around filter expression
  | .describe expression => describe around filter expression
  | .watch expression count zone => watch around filter expression count zone
  | .version => say around.printer "pykron v0.1.0"

def exitOf : Except Exit Unit → Exit
  | .ok _ => .status 0
  | .error exit => exit

def report (session : Session Unit) : Report :=
  let (result, printed) := session.run Printed.nothing
  ⟨printed.lines, [], exitOf result⟩

end Session

namespace Report

def help (form : Form) : Report := ⟨form.help, [], .status 0⟩

/-- The usage of a form and what is wrong with a command line. -/
def refused (form : Form) (refusal : Refusal) : Report :=
  let message := form.title ++ ": error: " ++ refusal.message
  ⟨[], form.usage :: (Text.splitAt Text.lineEnd message.toList).map String.ofList, .status 2⟩

end Report

/-- The filter of an invocation: all notes if it is verbose, or else from the level of a name on. -/
def NoteFilter.ofInvocation? (invocation : Invocation) (levelName : String) : Option NoteFilter :=
  if invocation.verbose then some ⟨Level.debug.rank, true⟩
  else (Level.rankNamed? levelName).map (⟨·, false⟩)

def Surroundings.run (around : Surroundings) (words : List String) : Report :=
  match Invocation.ofWords words with
  | .error (.help form) => .help form
  | .error (.refused form refusal) => .refused form refusal
  | .ok invocation =>
    match NoteFilter.ofInvocation? invocation around.levelName with
    | none => ⟨[], [], .crash .unknownLevel⟩
    | some filter =>
      match invocation.command with
      | none => .help .program
      | some command => (Session.ofCommand around filter command).report

end CronClock
