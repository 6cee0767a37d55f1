import CronClock.Field.Expansion

/-! # Five-field expressions

An expression holds the raw texts of the five fields. It is read from one text of five words and
written as its texts with a space between each two. Expanding it expands its fields in order, and the
first faulty field decides the fault. -/
set_option autoImplicit false
namespace CronClock

abbrev Expression := PerField String

abbrev Expansions := PerField Expansion

/-- Why a text is no schedule. -/
inductive ScheduleFault where
  | wordCount (text : String) (count : Nat)
  | field (complaint : FieldFault)
  | noCandidates
  deriving DecidableEq, Repr

namespace ScheduleFault

def message : ScheduleFault → String
  | wordCount text count =>
    "Expected 5 fields, got " ++ toString count ++ ": " ++ Text.quote text
  | field complaint => complaint.message
  | noCandidates => "Schedule produced no candidate times"

/-- Whether the fault is one of a schedule's text, and not a number too long to read. -/
def isOfText : ScheduleFault → Bool
  | field ⟨.digitCount, _, _⟩ => false
  | _ => true

end ScheduleFault

namespace Expression

/-- The expression without constraints. -/
def unconstrained : Expression := ⟨"*", "*", "*", "*", "*"⟩

/-- Reads a text of exactly five words. -/
def ofText? (text : String) : Except ScheduleFault Expression :=
  match Text.words text.toList with
  | [second, minute, hour, day, month] =>
    .ok ⟨String.ofList second, String.ofList minute, String.ofList hour, String.ofList day,
      String.ofList month⟩
  | others => .error (.wordCount text others.length)

def toText (expression : Expression) : String := Text.join " " expression.toList

/-- An expression from the fields that are given; `none` inside is an entry that is no text. All
fields with such an entry are reported, in order. -/
def ofEntries? (entry : Field → Option (Option String)) : Except (List Field) Expression :=
  match Field.all.filter fun field => entry field == some none with
  | [] => .ok (PerField.ofFunction fun field => ((entry field).join).getD "*")
  | wrong => .error wrong

def expandField (expression : Expression) (field : Field) : Except ScheduleFault Expansion :=
  (Expansion.ofField field (expression.get field)).mapError .field

def expand (expression : Expression) : Except ScheduleFault Expansions := do
  let second ← expression.expandField .second
  let minute ← expression.expandField .minute
  let hour ← expression.expandField .hour
  let day ← expression.expandField .day
  let month ← expression.expandField .month
  return ⟨second, minute, hour, day, month⟩

end Expression

/-- The expansions of the fields that are given; a field without an entry is not constrained. -/
def Expansions.ofEntries (entry : Field → Option Expansion) : Expansions :=
  PerField.ofFunction fun field => (entry field).getD .every

/-- Whether no field is constrained. -/
def Expansions.isEvery (expansions : Expansions) : Bool := expansions.toList.all Expansion.isEvery

/-- Reads and expands a text in one go. -/
def expandText (text : String) : Except ScheduleFault Expansions := do
  (← Expression.ofText? text).expand

/-- Judges a text: a fault of the text makes it invalid; a number too long to read stays a fault. -/
def judge (text : String) : Except ScheduleFault Bool :=
  match expandText text with
  | .ok _ => .ok true
  | .error fault => if fault.isOfText then .ok false else .error fault

end CronClock
