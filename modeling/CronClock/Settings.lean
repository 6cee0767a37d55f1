import CronClock.Calendar.Wall
import CronClock.Decimal.Number
import CronClock.Settings.EnvFile
import CronClock.Text.Lowercase

/-! # Settings

The settings are read from the environment and, where it is silent, from an environment file. The name
of a setting's variable is written in any case. A setting that nothing sets has its standard value. -/
set_option autoImplicit false
namespace CronClock

structure Settings where
  /-- The name of the zone of schedules that are built without one. -/
  zoneName : String
  /-- How many seconds a loop pauses before each round. -/
  pause : Decimal.Number
  /-- The name of the least grave level of notes that are shown. -/
  levelName : String
  deriving DecidableEq, Repr

namespace Settings

inductive Fault where
  | pauseIsNoNumber
  deriving DecidableEq, Repr

/-- The pause in microseconds, to the nearest one; it lasts for ever if it is infinite. -/
def pauseSpan (settings : Settings) : Int :=
  match settings.pause with
  | .finite negative size => if negative then -(size.scaled 6 : Int) else size.scaled 6
  | .infinite negative => if negative then 0 else Wall.limit
  | .notANumber => 0

def standardPause : Decimal.Number := Decimal.Scientific.binary false ⟨1, -3⟩

def zoneVariable : String := "pykron_timezone"
def pauseVariable : String := "pykron_loop_pause_seconds"
def levelVariable : String := "pykron_log_level"

/-- The value of the last variable of a name, which is given in small letters. -/
def last? (bindings : EnvFile.Bindings) (name : String) : Option (List Char) :=
  ((bindings.reverse.find? fun entry => Text.lowercase entry.1 == name.toList).map (·.2)).join

/-- The separators of information do not count as blanks around a number. -/
def trim (text : List Char) : List Char :=
  Text.stripOf (fun c => Text.isBlank c && !Text.isSeparator c) text

/-- The text without underscores, each of which has to stand alone inside it. -/
def withoutUnderscores? (text : List Char) : Option (List Char) :=
  let stretches := Text.splitAt '_' text
  if 1 < stretches.length && !(stretches.contains []) then some stretches.flatten else none

/-- A number with blanks around it, or without them but with its digits in groups. -/
def readNumber? (text : List Char) : Option Decimal.Number :=
  match Decimal.Number.read? (trim text) with
  | some number => some number
  | none => (withoutUnderscores? text).bind Decimal.Number.read?

def readPause : Option (List Char) → Except Fault Decimal.Number
  | none => .ok standardPause
  | some text =>
    match readNumber? text with
    | some number => .ok number
    | none => .error .pauseIsNoNumber

/-- The settings that an environment and the text of an environment file come to. -/
def read (environment : List (String × String)) (file : String) : Except Fault Settings := do
  let set := environment.map fun (name, value) => (name.toList, some value.toList)
  let inFile := EnvFile.bindings environment file
  let text? (name : String) : Option (List Char) := last? set name <|> last? inFile name
  let text (name standard : String) : String := ((text? name).map String.ofList).getD standard
  return ⟨text zoneVariable "UTC", ← readPause (text? pauseVariable), text levelVariable "WARNING"⟩

end Settings

end CronClock
