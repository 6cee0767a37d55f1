import CronClock.Text.Blank

/-! # The forms of the commands

A form says what may follow a command's title: flags, some with a value, and at most one operand. The
program's own form has a command as its operand, with everything that follows it. -/
set_option autoImplicit false
namespace CronClock

inductive Flag where
  | help
  | verbose
  | count
  | start
  | zone
  deriving DecidableEq, Repr

namespace Flag

/-- The names of a flag: one letter after a dash, or a word after two. -/
def names : Flag → List String
  | help => ["-h", "--help"]
  | verbose => ["-v", "--verbose"]
  | count => ["-n", "--count"]
  | start => ["--from"]
  | zone => ["--tz"]

/-- What stands for the value of a flag that takes one. -/
def placeholder? : Flag → Option String
  | help => none
  | verbose => none
  | count => some "COUNT"
  | start => some "START"
  | zone => some "TZ"

def takesValue (flag : Flag) : Bool := flag.placeholder?.isSome

def label (flag : Flag) : String := Text.join "/" flag.names

def mainName (flag : Flag) : String := flag.names.headD ""

def withPlaceholder (flag : Flag) (name : String) : String :=
  match flag.placeholder? with
  | none => name
  | some placeholder => name ++ " " ++ placeholder

end Flag

inductive Operand where
  | expression
  | command
  deriving DecidableEq, Repr

namespace Operand

def placeholder : Operand → String
  | expression => "expr"
  | command => "COMMAND"

def usage : Operand → String
  | expression => expression.placeholder
  | command => command.placeholder ++ " ..."

end Operand

inductive Verb where
  | next
  | validate
  | describe
  | watch
  | version
  deriving DecidableEq, Repr

namespace Verb

def all : List Verb := [next, validate, describe, watch, version]

def name : Verb → String
  | next => "next"
  | validate => "validate"
  | describe => "describe"
  | watch => "watch"
  | version => "version"

def purpose : Verb → String
  | next => "Show upcoming occurrences of an expression"
  | validate => "Check whether an expression is valid"
  | describe => "Describe an expression in words"
  | watch => "Wait for occurrences and print them as they happen"
  | version => "Show version information"

def ofName? (name : String) : Option Verb := all.find? (·.name == name)

end Verb

structure Form where
  title : String
  /-- The flags, each with its purpose. -/
  flags : List (Flag × String)
  operand : Option Operand
  description : Option String
  /-- The lines below everything else. -/
  closing : List String
  deriving DecidableEq, Repr

namespace Form

def programName : String := "pykron"

def helpPurpose : Flag × String := (.help, "show this help message and exit")

def zonePurpose : Flag × String :=
  (.zone, "Timezone the fields are matched in (IANA name or 'local')")

def program : Form where
  title := programName
  flags := [helpPurpose, (.verbose, "Show debug output")]
  operand := some .command
  description := some "pykron - crontab-like schedules with second resolution"
  closing := []

def ofExpression (verb : Verb) (flags : List (Flag × String)) : Form :=
  ⟨programName ++ " " ++ verb.name, helpPurpose :: flags, some .expression, none, []⟩

def ofVerb : Verb → Form
  | .next =>
    { ofExpression .next
        [(.count, "Number of occurrences to show (default: 5)"),
          (.start, "Reference time in ISO format (default: now)"), zonePurpose] with
      description := some "Compute the next instants matching an expression."
      closing := ["Examples:",
        "  pykron next \"0 0 12 * *\"                       Noon every day",
        "  pykron next \"0/15 * * * *\" -n 8                Every 15 seconds",
        "  pykron next \"0 0 0 31 *\" --from 2021-02-01     Month ends with 31 days"] }
  | .validate => ofExpression .validate []
  | .describe => ofExpression .describe []
  | .watch =>
    ofExpression .watch
      [(.count, "Stop after this many occurrences (default: run until interrupted)"), zonePurpose]
  | .version => { ofExpression .version [] with operand := none }

def flagNames (form : Form) : List (String × Flag) :=
  form.flags.flatMap fun (flag, _) => flag.names.map (·, flag)

def flagNamed? (form : Form) (name : List Char) : Option Flag :=
  form.flagNames.lookup (String.ofList name)

def flagsBeginning (form : Form) (opening : List Char) : List (String × Flag) :=
  form.flagNames.filter fun (name, _) => opening.isPrefixOf name.toList

/-! ## Usage and help -/

/-- The rows of the help for an operand: how far each is indented, its term and its purpose. -/
def operandRows : Operand → List (Nat × String × String)
  | .expression => [(2, Operand.expression.placeholder, "Schedule expression (quote it)")]
  | .command =>
    (2, Operand.command.placeholder, "") :: Verb.all.map fun verb => (4, verb.name, verb.purpose)

def usage (form : Form) : String :=
  let flags := form.flags.map fun (flag, _) => "[" ++ flag.withPlaceholder flag.mainName ++ "]"
  Text.join " " (["usage:", form.title] ++ flags ++ (form.operand.map Operand.usage).toList)

def flagRows (form : Form) : List (Nat × String × String) :=
  form.flags.map fun (flag, purpose) =>
    (2, Text.join ", " (flag.names.map flag.withPlaceholder), purpose)

def spaces (count : Nat) : String := String.ofList (Text.spaces count)

/-- The column of the purposes, unless what they explain is wider. -/
def greatestColumn : Nat := 24

/-- A row of the help: a purpose stands in its column, on the next line if there is no room for two
spaces before it. -/
def rowLines (column : Nat) : Nat × String × String → List String
  | (indent, term, purpose) =>
    let start := spaces indent ++ term
    if purpose = "" then [start]
    else if start.length + 2 ≤ column then [start ++ spaces (column - start.length) ++ purpose]
    else [start, spaces column ++ purpose]

def section? (title : String) (column : Nat) (rows : List (Nat × String × String)) : List String :=
  if rows = [] then [] else ["", title] ++ rows.flatMap (rowLines column)

def help (form : Form) : List String :=
  let operands := (form.operand.map operandRows).getD []
  let flags := form.flagRows
  let widths := (operands ++ flags).map fun (indent, term, _) => indent + term.length + 2
  let column := min greatestColumn (widths.foldl max 0)
  [form.usage] ++ (form.description.map fun text => ["", text]).getD []
    ++ section? "positional arguments:" column operands ++ section? "options:" column flags
    ++ (if form.closing = [] then [] else "" :: form.closing)

end Form

end CronClock
