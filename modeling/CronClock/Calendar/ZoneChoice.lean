import CronClock.Calendar.Zone
import CronClock.Text.Blank
import CronClock.Text.Quoted

/-! # Choosing a zone by name

A schedule's zone is given outright, by name, or by the default name. `utc` in any case is universal
time, `local` in any case and the empty name mean no zone at all, and every other name is looked up in
a zone table whose names are relative paths. -/
set_option autoImplicit false
namespace CronClock

abbrev ZoneTable := List (String × ZoneRules)

inductive ZoneChoice where
  | byDefault
  | byName (name : String)
  | outright (zone : Zone)

inductive ZoneFault where
  /-- A name that the table does not have. -/
  | unknownName
  /-- A name that is no relative path below the table, written without detours. -/
  | malformedName
  deriving DecidableEq, Repr

namespace ZoneTable

/-- An absolute path, a path with an empty part, a part `.` or a part `..` is no zone's name. -/
def isMalformedName (name : String) : Bool :=
  let parts := Text.splitAt '/' name.toList
  parts.any fun part => part == [] || part == ['.'] || part == ['.', '.']

def find? (table : ZoneTable) (name : String) : Except ZoneFault Zone :=
  if isMalformedName name then .error .malformedName
  else match table.lookup name with
    | some rules => .ok (.named name rules)
    | none => .error .unknownName

end ZoneTable

namespace ZoneChoice

def nameMeans (word : String) (name : String) : Bool :=
  Text.lowercase name.toList == word.toList

def ofName (table : ZoneTable) (name : String) : Except ZoneFault (Option Zone) :=
  if name = "" ∨ nameMeans "local" name then .ok none
  else if nameMeans "utc" name then .ok (some .universal)
  else (table.find? name).map some

/-- The zone that a choice comes to; without a default name there is none by default. -/
def resolve (table : ZoneTable) (defaultName : Option String) :
    ZoneChoice → Except ZoneFault (Option Zone)
  | byDefault => ofName table (defaultName.getD "")
  | byName name => ofName table name
  | outright zone => .ok (some zone)

end ZoneChoice

def spanText (span : Int) : String :=
  let days := span / Wall.day
  let seconds := span % Wall.day / Wall.second
  "datetime.timedelta(" ++ (if days = 0 then "" else "days=" ++ toString days ++ ", ")
    ++ "seconds=" ++ toString seconds ++ ")"

def Zone.label : Zone → String
  | universal => "datetime.timezone.utc"
  | fixed offset => "datetime.timezone(" ++ spanText offset ++ ")"
  | bare offset => "datetime.timezone(" ++ spanText offset ++ ")"
  | named name _ => "zoneinfo.ZoneInfo(key=" ++ Text.quote name ++ ")"

def zoneLabel : Option Zone → String
  | none => "None"
  | some zone => zone.label

end CronClock
