import CronClock.Expression

/-! # Descriptions in words

Each field is described on its own: `every` with the field's title, or the title with the field's
values, where a run of three or more consecutive values shrinks to its ends. -/
set_option autoImplicit false
namespace CronClock.Description

/-- Puts a number in front of the first run if it comes just before it. -/
def extendRuns (number : Int) : List (List Int) → List (List Int)
  | [] => [[number]]
  | run :: rest =>
    if run.head? = some (number + 1) then (number :: run) :: rest else [number] :: run :: rest

/-- The longest runs of consecutive numbers in an ascending list. -/
def runs (numbers : List Int) : List (List Int) := numbers.foldr extendRuns []

def runText (run : List Int) : String :=
  match run.head?, run.getLast? with
  | some first, some last =>
    if 2 < run.length then toString first ++ "-" ++ toString last
    else Text.join "," (run.map toString)
  | _, _ => ""

/-- The values of a field as a text that the field grammar reads back. -/
def compress (numbers : List Int) : String := Text.join "," ((runs numbers).map runText)

def ofExpansion (field : Field) : Expansion → String
  | .every => "every " ++ field.title
  | .only values => field.title ++ " " ++ compress values.toList

def ofExpansions (expansions : Expansions) : String :=
  Text.join ", " (Field.all.map fun field => ofExpansion field (expansions.get field))

def ofText (text : String) : Except ScheduleFault String :=
  match expandText text with
  | .ok expansions => .ok (ofExpansions expansions)
  | .error fault =>
    if fault.isOfText then .ok ("Invalid expression: " ++ fault.message) else .error fault

end CronClock.Description
