import CronClock.Command.Session
import CronClock.Console
import CronClock.Settings
import Std.Time.DateTime.Timestamp

/-! # The program

Runs a command line under the real clock, with settings from the environment and no zones but universal
time and none. System time is universal time. A watched schedule is fired round by round, so that the
rounds follow the real clock. -/
set_option autoImplicit false
namespace CronClock.Program

def instantNow : IO Int := do
  let timestamp ← Std.Time.Timestamp.now
  let epoch := Wall.midnight ⟨1970, 1, 1⟩
  return epoch + timestamp.toNanosecondsSinceUnixEpoch.val / 1000

/-- The variables of the environment that settings are read from, in capitals or small letters. -/
def environment : IO (List (String × String)) := do
  let names := [Settings.zoneVariable, Settings.pauseVariable, Settings.levelVariable]
  let bindings ← (names.map String.toUpper ++ names).mapM fun name => do
    return (← IO.getEnv name).map (name, ·)
  return bindings.filterMap id

def statusOf : Exit → UInt32
  | .status code => code.toUInt32
  | .crash _ => 1

def printReport (report : Report) : IO UInt32 := do
  report.output.forM IO.println
  report.errors.forM IO.eprintln
  if let .crash _ := report.exit then IO.eprintln "The command could not be carried out."
  return statusOf report.exit

def runSession {α : Type} (session : Session α) (printed : Printed) :
    IO (Except Exit α × Printed) := do
  let (result, shown) := session.run printed
  shown.lines.forM IO.println
  (← IO.getStdout).flush
  return (result, { shown with lines := [] })

def perform (filter : NoteFilter) (calls : Nat) (printed : Printed) :
    List Happening → IO Printed
  | [] => return printed
  | .slept span :: rest => do
    IO.sleep (span / 1000).toNat.toUInt32
    perform filter calls printed rest
  | happening :: rest => do
    let (_, printed) ← runSession (Session.replay Console.printer filter calls [happening]) printed
    perform filter calls printed rest

/-- Fires a schedule round after round until its block or its moments end. -/
partial def rounds (planner : Planner) (pause : Int) (count : Option Nat) (filter : NoteFilter)
    (calls : Nat) (printed : Printed) : IO UInt32 := do
  let now ← instantNow
  let leg := Firing.whileContinued planner pause (Session.counting count) 1
    ⟨now, 2, calls, .byKeyboard⟩
  let printed ← perform filter calls printed leg.happenings
  match leg.result with
  | .error (.raised _) => rounds planner pause count filter leg.world.calls printed
  | .error (.time fault) => printReport ⟨[], [], .crash (.time fault)⟩
  | _ => return 0

def watch (around : Surroundings) (filter : NoteFilter) (expression : String) (count : Option Nat)
    (zoneName : Option String) : IO UInt32 := do
  match ← runSession (Session.beginWatch around filter expression zoneName) Printed.nothing with
  | (.ok schedule, printed) =>
    rounds (schedule.planner around.system) around.pause count filter 0 printed
  | (.error exit, _) => printReport ⟨[], [], exit⟩

def run (settings : Settings) (words : List String) : IO UInt32 := do
  let around : Surroundings :=
    ⟨Console.printer, .universal, [], some settings.zoneName, settings.levelName,
      ← instantNow, settings.pauseSpan, none⟩
  match Invocation.ofWords words with
  | .ok ⟨verbose, some (.watch expression count zone)⟩ =>
    match NoteFilter.ofInvocation? ⟨verbose, none⟩ settings.levelName with
    | some filter => watch around filter expression count zone
    | none => printReport (around.run words)
  | _ => printReport (around.run words)

end CronClock.Program

def main (words : List String) : IO UInt32 := do
  match CronClock.Settings.read (← CronClock.Program.environment) "" with
  | .ok settings => CronClock.Program.run settings words
  | .error .pauseIsNoNumber =>
    IO.eprintln "The pause of the settings is no number."
    return 1
