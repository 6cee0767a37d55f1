import CronClock.Calendar.IsoText
import CronClock.Console.Table

/-! # A console

`Console.printer` prints on a console of a hundred columns without colours, in the way of the terminal
library that the program is used with. It is one printer among others: it serves to run the program, and
what is proved of sessions holds of every printer. A note stands in three columns: the time, left out if
the note before it has the same, the level and the message. -/
set_option autoImplicit false
namespace CronClock.Console

def columns : Nat := 100

def levelColumns : Nat := 8

def faultOf : MarkupFault → PrintFault
  | .unreadableColor _ => ⟨"ValueError"⟩
  | _ => ⟨"MarkupError"⟩

def textLines? (marked : String) : Except PrintFault (List String) :=
  ((render marked.toList).map fun text => (wrap columns text).map String.ofList).mapError faultOf

def tableLines? (table : Table) : Except PrintFault (List String) :=
  ((Table.lines table).map fun lines => lines.map String.ofList).mapError faultOf

/-- The time of a note: month, day and year in two digits each, and the time of day. -/
def stampText (instant : Int) : String :=
  let date := Wall.date instant
  "[" ++ padded 2 date.month ++ "/" ++ padded 2 date.day ++ "/" ++ padded 2 (date.year % 100) ++ " "
    ++ Moment.timeText instant ++ "]"

/-- Sets the lines of a message after its time and level; the lines below the first are indented. -/
def setNote (stamp level : List Char) (message : String) : List (List Char) :=
  let start := stamp ++ ' ' :: level ++ Text.spaces (levelColumns - level.length) ++ [' ']
  let indent := Text.spaces start.length
  match wrap (columns - start.length) (withoutControls message.toList) with
  | [] => [Text.stripRight start]
  | first :: rest => ((start ++ first) :: rest.map (indent ++ ·)).map Text.stripRight

def noteLines (before : Option Int) (instant : Int) (level message : String) : List String :=
  let stamp := stampText instant
  let shown := if before.map stampText = some stamp then Text.spaces stamp.length else stamp.toList
  (setNote shown level.toList message).map String.ofList

def printer : Printer := ⟨textLines?, tableLines?, noteLines⟩

end CronClock.Console
