import CronClock.Text.Quoted
import CronClock.Text.Blank

/-! # Environment files

An environment file is a list of lines `name = value`. The name may follow the word `export` and may
stand between single quotes. A value is a text between quotes, which may hold line ends and escapes,
or else the rest of the line up to a blank with a number sign after it. A name alone has no value, and
a line that is none of this is passed over. A value may refer to the variables before it.

This stands for the reader that belongs to the settings library. It serves to run the program, and no
result about schedules, loops or sessions depends on it. -/
set_option autoImplicit false
namespace CronClock.EnvFile

open Text

structure Entry where
  name : List Char
  value : Option (List Char)
  deriving DecidableEq, Repr

/-! ## Characters -/

def carriageReturn : Char := Char.ofNat 0x0D
def openBrace : Char := Char.ofNat 0x7B
def closeBrace : Char := Char.ofNat 0x7D

/-- Every way to end a line becomes the same one. -/
def unifyLineEnds : List Char → List Char
  | [] => []
  | [c] => [if c = carriageReturn then lineEnd else c]
  | c :: d :: rest =>
    if c = carriageReturn then
      if d = lineEnd then unifyLineEnds (d :: rest) else lineEnd :: unifyLineEnds (d :: rest)
    else c :: unifyLineEnds (d :: rest)

def isLineBlank (c : Char) : Bool := isBlank c && c != lineEnd

def skipLineBlanks (text : List Char) : List Char := text.dropWhile isLineBlank

def restOfLine (text : List Char) : List Char := text.takeWhile (· != lineEnd)

def afterRestOfLine (text : List Char) : List Char := text.dropWhile (· != lineEnd)

/-- What follows the line that a text begins in. -/
def nextLine (text : List Char) : List Char := (afterRestOfLine text).drop 1

/-! ## The parts of a line

A part is read off the front of a text; it comes with what is left, or is not there. -/

abbrev Part (α : Type) := Option (α × List Char)

/-- The text up to its closing quote: the first quote that has no backslash just before it or, if there
is none, the last quote of all. -/
def upToQuote (mark : Char) : List Char → Part (List Char)
  | [] => none
  | [c] => if c = mark then some ([], []) else none
  | c :: d :: rest =>
    if c = mark then some ([], d :: rest)
    else if c = backslash ∧ d = mark then
      match upToQuote mark rest with
      | some (inside, left) => some (c :: d :: inside, left)
      | none => some ([c], rest)
    else (upToQuote mark (d :: rest)).map fun (inside, left) => (c :: inside, left)

def singleQuoteEscape? (c : Char) : Option Char :=
  if c = backslash ∨ c = singleQuote then some c else none

def doubleQuoteEscape? (c : Char) : Option Char :=
  if c = backslash ∨ c = singleQuote ∨ c = doubleQuote then some c
  else
    match c with
    | 'a' => some (Char.ofNat 0x07)
    | 'b' => some (Char.ofNat 0x08)
    | 'f' => some (Char.ofNat 0x0C)
    | 'n' => some (Char.ofNat 0x0A)
    | 'r' => some (Char.ofNat 0x0D)
    | 't' => some (Char.ofNat 0x09)
    | 'v' => some (Char.ofNat 0x0B)
    | _ => none

/-- A backslash and a letter that is known after it become the character that they mean. -/
def unescape (known : Char → Option Char) : List Char → List Char
  | [] => []
  | [c] => [c]
  | c :: d :: rest =>
    match known d with
    | some meant =>
      if c = backslash then meant :: unescape known rest else c :: unescape known (d :: rest)
    | none => c :: unescape known (d :: rest)

/-- The text before a number sign that follows a blank. -/
def beforeComment (followsBlank : Bool) : List Char → List Char
  | [] => []
  | c :: rest =>
    if c = '#' && followsBlank then [] else c :: beforeComment (isBlank c) rest

def unquotedValue (line : List Char) : List Char := stripRight (beforeComment false line)

def value? (text : List Char) : Part (List Char) :=
  if text.head? = some singleQuote then
    (upToQuote singleQuote text.tail).map fun (inside, left) =>
      (unescape singleQuoteEscape? inside, left)
  else if text.head? = some doubleQuote then
    (upToQuote doubleQuote text.tail).map fun (inside, left) =>
      (unescape doubleQuoteEscape? inside, left)
  else some (unquotedValue (restOfLine text), afterRestOfLine text)

def isNameChar (c : Char) : Bool := c != '=' && c != '#' && !isBlank c

/-- The name at the start of a text; a comment stands where there is none. -/
def name? (text : List Char) : Part (Option (List Char)) :=
  if text.head? = some '#' then some (none, text)
  else if text.head? = some singleQuote then
    let name := text.tail.takeWhile (· != singleQuote)
    match text.tail.dropWhile (· != singleQuote) with
    | _ :: left => if name = [] then none else some (some name, left)
    | [] => none
  else
    let name := text.takeWhile isNameChar
    if name = [] then none else some (some name, text.dropWhile isNameChar)

def exportWord : List Char := "export".toList

/-- A text without the word `export` and the blanks after it. -/
def skipExport (text : List Char) : List Char :=
  let rest := text.drop exportWord.length
  if exportWord.isPrefixOf text && (rest.head?.map isLineBlank).getD false then skipLineBlanks rest
  else text

/-- What follows a line's end, before which a comment may stand. -/
def afterLine? (text : List Char) : Option (List Char) :=
  let rest := skipLineBlanks text
  match if rest.head? = some '#' then afterRestOfLine rest else rest with
  | [] => some []
  | c :: left => if c = lineEnd then some left else none

/-- The value after a name, if an equals sign comes first, and what is left; or where reading fails. -/
def valueAfter (text : List Char) : Except (List Char) (Option (List Char) × List Char) :=
  let rest := skipLineBlanks text
  if rest.head? = some '=' then
    let start := skipLineBlanks rest.tail
    match value? start with
    | some (value, left) => .ok (some value, left)
    | none => .error start
  else .ok (none, rest)

/-- The entry at the start of a text; where reading fails, the rest of that line is passed over. -/
def entry (text : List Char) : Option Entry × List Char :=
  let start := skipExport text
  match name? start with
  | none => (none, nextLine start)
  | some (name, rest) =>
    match valueAfter rest with
    | .error place => (none, nextLine place)
    | .ok (value, left) =>
      match afterLine? left with
      | some following => (name.map (⟨·, value⟩), following)
      | none => (none, nextLine left)

/-- The entries of a text. Each of them takes at least one character. -/
def entriesWithin : Nat → List Char → List Entry
  | 0, _ => []
  | limit + 1, text =>
    match text.dropWhile isBlank with
    | [] => []
    | start =>
      let (found, rest) := entry start
      found.toList ++ entriesWithin limit rest

def entries (text : List Char) : List Entry :=
  let lines := unifyLineEnds text
  entriesWithin lines.length lines

/-! ## References to variables -/

abbrev Bindings := List (List Char × Option (List Char))

/-- The value of the last variable of a name. -/
def Bindings.last? (bindings : Bindings) (name : List Char) : Option (Option (List Char)) :=
  bindings.reverse.lookup name

/-- What a reference means whose name, and the text to take in its absence, is given without the braces:
nothing if this is no reference. A variable that has no value stands for the empty text. -/
def referenceValue? (bindings : Bindings) (inside : List Char) : Option (List Char) :=
  let name := inside.takeWhile (· != ':')
  match inside.dropWhile (· != ':') with
  | [] => some (((bindings.last? name).join).getD [])
  | ':' :: '-' :: otherwise => some (((bindings.last? name).getD (some otherwise)).getD [])
  | _ => none

/-- A stretch of text before a closing brace, with the reference put in that ends there. -/
def resolveStretch (bindings : Bindings) : List Char → List Char
  | [] => [closeBrace]
  | [c] => [c, closeBrace]
  | c :: d :: rest =>
    let literally := c :: resolveStretch bindings (d :: rest)
    if c = '$' ∧ d = openBrace then (referenceValue? bindings rest).getD literally else literally

/-- Puts the values of variables in for the references to them. -/
def resolve (bindings : Bindings) (text : List Char) : List Char :=
  let stretches := splitAt closeBrace text
  stretches.dropLast.flatMap (resolveStretch bindings) ++ (stretches.getLast?).getD []

/-- Sets a variable. One that is there already keeps its place. -/
def assign (name : List Char) (value : Option (List Char)) : Bindings → Bindings
  | [] => [(name, value)]
  | (known, old) :: rest =>
    if known = name then (known, value) :: rest else (known, old) :: assign name value rest

/-- The variables of entries: each value may refer to what comes before it, and to the environment. -/
def bindingsOf (environment : Bindings) (entries : List Entry) : Bindings :=
  entries.foldl
    (fun bindings entry =>
      assign entry.name (entry.value.map (resolve (environment ++ bindings))) bindings)
    []

/-- The variables that a file sets in an environment. -/
def bindings (environment : List (String × String)) (file : String) : Bindings :=
  bindingsOf (environment.map fun (name, value) => (name.toList, some value.toList))
    (entries file.toList)

end CronClock.EnvFile
