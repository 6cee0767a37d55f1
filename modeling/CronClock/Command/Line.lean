import CronClock.Command.Form
import CronClock.Text.Numeral
import CronClock.Text.Quoted

/-! # Reading the words of a command line

Each word is first judged by itself: it is plain, or it uses a flag, by its name, by the beginning of
its name, with a value behind an equals sign or run together with its letter, or it looks like a flag
that the form does not have. After a double dash all words are plain. The words then become items in
order, up to the first that is refused. -/
set_option autoImplicit false
namespace CronClock

inductive Refusal where
  | ambiguous (word : String) (names : List String)
  | valueMissing (flag : Flag)
  | valueUnwanted (flag : Flag) (value : String)
  | countNotWhole (value : String)
  | countTooSmall (count : Int)
  | operandMissing (operand : Operand)
  | unknownCommand (word : String)
  | strayWords (words : List String)
  deriving DecidableEq, Repr

namespace Refusal

def ofArgument (label complaint : String) : String := "argument " ++ label ++ ": " ++ complaint

def message : Refusal → String
  | ambiguous word names =>
    "ambiguous option: " ++ word ++ " could match " ++ Text.join ", " names
  | valueMissing flag => ofArgument flag.label "expected one argument"
  | valueUnwanted flag value => ofArgument flag.label ("ignored explicit argument " ++ Text.quote value)
  | countNotWhole value => ofArgument Flag.count.label ("invalid int value: " ++ Text.quote value)
  | countTooSmall count => ofArgument Flag.count.label ("must be at least 1, got " ++ toString count)
  | operandMissing operand => "the following arguments are required: " ++ operand.placeholder
  | unknownCommand word =>
    ofArgument Operand.command.placeholder
      ("invalid choice: " ++ Text.quote word ++ " (choose from "
        ++ Text.join ", " (Verb.all.map fun verb => Text.quote verb.name) ++ ")")
  | strayWords words => "unrecognized arguments: " ++ Text.join " " words

end Refusal

/-! ## Single words -/

/-- What is written in the same word as a flag's name. -/
inductive Attached where
  | nothing
  | afterEquals (text : List Char)
  | directly (text : List Char)
  deriving DecidableEq, Repr

inductive Sense where
  | plain
  | divider
  /-- The use of a flag by a name of one letter or of a word. -/
  | flag (flag : Flag) (isLetter : Bool) (attached : Attached)
  | unknown
  deriving DecidableEq, Repr

namespace Sense

def isNumber (digits : List Char) : Bool := digits != [] && digits.all Text.isDigit

def withoutLineEnd (text : List Char) : List Char :=
  if text.getLast? = some Text.lineEnd then text.dropLast else text

/-- Whether a word is a negative number, whole or with digits after a point. -/
def isNegative (word : List Char) : Bool :=
  let number := withoutLineEnd word.tail
  word.head? == some '-'
    && (isNumber number
      || (number.contains '.' && (number.takeWhile (· != '.')).all Text.isDigit
        && isNumber ((number.dropWhile (· != '.')).drop 1)))

def beforeEquals (word : List Char) : List Char := word.takeWhile (· != '=')

def attachedTo (word : List Char) : Attached :=
  if word.contains '=' then .afterEquals ((word.dropWhile (· != '=')).drop 1) else .nothing

def isLong (word : List Char) : Bool := (word.drop 1).head? == some '-'

/-- The flags that a word may mean which is no flag's name itself. -/
def candidates (form : Form) (word : List Char) : List (String × Flag × Attached) :=
  if isLong word then
    (form.flagsBeginning (beforeEquals word)).map fun (name, used) => (name, used, attachedTo word)
  else
    let name := String.ofList (word.take 2)
    ((form.flagNamed? (word.take 2)).map fun used => (name, used, .directly (word.drop 2))).toList

def ofOther (form : Form) (word : List Char) : Except Refusal Sense :=
  match candidates form word with
  | [] => .ok (if isNegative word || word.contains ' ' then .plain else .unknown)
  | [(name, used, attached)] => .ok (.flag used (!isLong name.toList) attached)
  | several => .error (.ambiguous (String.ofList word) (several.map (·.1)))

def ofWord (form : Form) (word : List Char) : Except Refusal Sense :=
  if word.head? ≠ some '-' then .ok .plain
  else
    match form.flagNamed? word, form.flagNamed? (beforeEquals word) with
    | some used, _ => .ok (.flag used (!isLong word) .nothing)
    | none, named =>
      if word.length = 1 then .ok .plain
      else
        match named with
        | some used => .ok (.flag used (!isLong word) (attachedTo word))
        | none => ofOther form word

/-- The senses of words; those after the first double dash are plain. -/
def ofWords (form : Form) : List String → Except Refusal (List (String × Sense))
  | [] => .ok []
  | word :: rest =>
    if word = "--" then .ok ((word, divider) :: rest.map (·, plain))
    else
      match ofWord form word.toList with
      | .error refusal => .error refusal
      | .ok sense => (ofWords form rest).map ((word, sense) :: ·)

end Sense

/-! ## Items -/

inductive Item where
  | flag (flag : Flag) (value : Option String)
  | expression (text : String)
  /-- A command's name with all words after it. -/
  | command (name : String) (words : List String)
  | stray (word : String)
  deriving DecidableEq, Repr

/-- Items in order, and what is wrong after the last of them. -/
structure CommandLine where
  items : List Item
  refusal : Option Refusal
  deriving DecidableEq, Repr

namespace CommandLine

def nothing : CommandLine := ⟨[], none⟩

def refused (refusal : Refusal) : CommandLine := ⟨[], some refusal⟩

def after (items : List Item) (line : CommandLine) : CommandLine :=
  { line with items := items ++ line.items }

/-- The items of one word, and the flag among them that takes its value from the next word. -/
structure Spread where
  items : List Item
  waiting : Option Flag

def Spread.after (item : Item) (spread : Spread) : Spread :=
  { spread with items := item :: spread.items }

def bare (flag : Flag) : Spread :=
  if flag.takesValue then ⟨[], some flag⟩ else ⟨[.flag flag none], none⟩

/-- Reads what is attached to a flag: its value or, after a letter that takes none, more letters. -/
def spread (form : Form) (flag : Flag) (isLetter afterEquals : Bool) :
    List Char → Except Refusal Spread
  | [] =>
    if flag.takesValue then .ok ⟨[.flag flag (some "")], none⟩ else .error (.valueUnwanted flag "")
  | c :: rest =>
    if flag.takesValue then .ok ⟨[.flag flag (some (String.ofList (c :: rest)))], none⟩
    else if !isLetter || afterEquals || c == '-' then
      .error (.valueUnwanted flag (String.ofList (c :: rest)))
    else
      match form.flagNamed? ['-', c] with
      | none => .ok ⟨[.flag flag none, .stray (String.ofList ('-' :: c :: rest))], none⟩
      | some other =>
        match rest with
        | [] => .ok ((bare other).after (.flag flag none))
        | d :: more =>
          if d = '=' then (spread form other true true more).map (.after (.flag flag none))
          else (spread form other true false (d :: more)).map (.after (.flag flag none))

def ofFlag (form : Form) (flag : Flag) (isLetter : Bool) : Attached → Except Refusal Spread
  | .nothing => .ok (bare flag)
  | .afterEquals text => spread form flag isLetter true text
  | .directly text => spread form flag isLetter false text

/-- The items of words whose senses are known. The operand is the first plain word that is no flag's
value; a double dash counts as part of the operand if it stands next to it. -/
def ofSenses (form : Form) : Option Operand → List (String × Sense) → CommandLine
  | _, [] => nothing
  | operand, (word, .unknown) :: rest => after [.stray word] (ofSenses form operand rest)
  | operand, (_, .flag flag isLetter attached) :: rest =>
    match ofFlag form flag isLetter attached with
    | .error refusal => refused refusal
    | .ok ⟨items, none⟩ => after items (ofSenses form operand rest)
    | .ok ⟨items, some waiting⟩ =>
      match rest with
      | (value, .plain) :: left =>
        after (items ++ [.flag waiting (some value)]) (ofSenses form operand left)
      | _ => refused (.valueMissing waiting)
  | some .expression, (_, .divider) :: (text, .plain) :: left =>
    after [.expression text] (ofSenses form none left)
  | some .command, (word, .divider) :: next :: left =>
    ⟨[.command word ((next :: left).map (·.1))], none⟩
  | operand, (word, .divider) :: rest => after [.stray word] (ofSenses form operand rest)
  | none, (word, .plain) :: rest => after [.stray word] (ofSenses form none rest)
  | some .command, (word, .plain) :: rest => ⟨[.command word (rest.map (·.1))], none⟩
  | some .expression, (text, .plain) :: (_, .divider) :: left =>
    after [.expression text] (ofSenses form none left)
  | some .expression, (text, .plain) :: rest => after [.expression text] (ofSenses form none rest)

/-- Reads words by a form. -/
def ofWords (form : Form) (words : List String) : CommandLine :=
  match Sense.ofWords form words with
  | .error refusal => refused refusal
  | .ok senses => ofSenses form form.operand senses

end CommandLine

/-! ## Counts -/

namespace Count

/-- In a text of ASCII characters alone, the separators of information do not count as blanks. -/
def trim (text : List Char) : List Char :=
  let isAscii := text.all fun c => c.toNat < 0x80
  Text.stripOf (fun c => Text.isBlank c && !(isAscii && Text.isSeparator c)) text

/-- Reads a whole number with blanks around it, a sign before it and single underscores inside it. -/
def read? (text : List Char) : Option Int :=
  let trimmed := trim text
  let negative := trimmed.head? == some '-'
  let body := if negative || trimmed.head? == some '+' then trimmed.tail else trimmed
  let groups := Text.splitAt '_' body
  let digits := groups.flatten
  if groups.all Sense.isNumber && digits.length ≤ Text.Numeral.longest then
    some (Text.Numeral.mk negative digits).value
  else none

def ofText (text : String) : Except Refusal Nat :=
  match read? text.toList with
  | none => .error (.countNotWhole text)
  | some count => if count < 1 then .error (.countTooSmall count) else .ok count.toNat

end Count

end CronClock
