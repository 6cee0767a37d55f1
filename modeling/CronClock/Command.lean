import CronClock.Command.Line

/-! # Commands

`Invocation.ofWords` reads a command line. It stops where help is asked for or the words are refused;
each of the two belongs to the form that was being read. -/
set_option autoImplicit false
namespace CronClock

inductive Command where
  | next (expression : String) (count : Nat) (start zone : Option String)
  | validate (expression : String)
  | describe (expression : String)
  | watch (expression : String) (count : Option Nat) (zone : Option String)
  | version
  deriving DecidableEq, Repr

structure Invocation where
  verbose : Bool
  command : Option Command
  deriving DecidableEq, Repr

/-- Why a command line leads to no command. -/
inductive Stop where
  | help (form : Form)
  | refused (form : Form) (refusal : Refusal)
  deriving DecidableEq, Repr

structure Given where
  verbose : Bool
  expression : Option String
  count : Option Nat
  start : Option String
  zone : Option String
  command : Option (String × List String)
  strays : List String
  deriving DecidableEq, Repr

namespace Given

def nothing : Given := ⟨false, none, none, none, none, none, []⟩

/-- Takes an item in. Of a flag that is given twice the last value counts. -/
def take (form : Form) (given : Given) : Item → Except Stop Given
  | .flag .help _ => .error (.help form)
  | .flag .verbose _ => .ok { given with verbose := true }
  | .flag .count value =>
    match Count.ofText (value.getD "") with
    | .ok count => .ok { given with count := some count }
    | .error refusal => .error (.refused form refusal)
  | .flag .start value => .ok { given with start := value }
  | .flag .zone value => .ok { given with zone := value }
  | .expression text => .ok { given with expression := some text }
  | .command name words => .ok { given with command := some (name, words) }
  | .stray word => .ok { given with strays := given.strays ++ [word] }

def takeAll (form : Form) (given : Given) : List Item → Except Stop Given
  | [] => .ok given
  | item :: rest =>
    match take form given item with
    | .ok given => takeAll form given rest
    | .error stop => .error stop

/-- What words give by a form. -/
def ofWords (form : Form) (words : List String) : Except Stop Given :=
  let line := CommandLine.ofWords form words
  match takeAll form nothing line.items, line.refusal with
  | .error stop, _ => .error stop
  | .ok _, some refusal => .error (.refused form refusal)
  | .ok given, none => .ok given

end Given

namespace Command

def standardCount : Nat := 5

/-- The command of a verb with what its words give. -/
def ofGiven? (verb : Verb) (given : Given) : Option Command :=
  match verb, given.expression with
  | .version, _ => some .version
  | _, none => none
  | .next, some text => some (.next text (given.count.getD standardCount) given.start given.zone)
  | .validate, some text => some (.validate text)
  | .describe, some text => some (.describe text)
  | .watch, some text => some (.watch text given.count given.zone)

/-- The command of a verb and its words, with the words among them that it has no use for. -/
def ofWords (verb : Verb) (words : List String) : Except Stop (Command × List String) :=
  match Given.ofWords (.ofVerb verb) words with
  | .error stop => .error stop
  | .ok given =>
    match ofGiven? verb given with
    | some command => .ok (command, given.strays)
    | none => .error (.refused (.ofVerb verb) (.operandMissing .expression))

end Command

namespace Invocation

def ofStrays (invocation : Invocation) : List String → Except Stop Invocation
  | [] => .ok invocation
  | strays => .error (.refused .program (.strayWords strays))

/-- Reads a command line. Words without a use are refused when all else is in order. -/
def ofWords (words : List String) : Except Stop Invocation :=
  match Given.ofWords .program words with
  | .error stop => .error stop
  | .ok given =>
    match given.command with
    | none => ofStrays ⟨given.verbose, none⟩ given.strays
    | some (name, words) =>
      match Verb.ofName? name with
      | none => .error (.refused .program (.unknownCommand name))
      | some verb =>
        match Command.ofWords verb words with
        | .error stop => .error stop
        | .ok (command, strays) => ofStrays ⟨given.verbose, some command⟩ (given.strays ++ strays)

end Invocation

end CronClock
