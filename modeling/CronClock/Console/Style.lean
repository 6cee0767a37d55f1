import CronClock.Console.ColorTable
import CronClock.Text.Lowercase
import CronClock.Text.Numeral
import CronClock.Text.Blank

/-! # Styles

A style is named by words: emphases, which `not` turns off, a colour, a colour of the ground after
`on`, and an address after `link`. `Style.normalName` gives the names of one style the same form; a text
that names no style stands for itself, in small letters. -/
set_option autoImplicit false
namespace CronClock.Console

inductive Emphasis where
  | bold
  | dim
  | italic
  | underline
  | blink
  | fastBlink
  | inverted
  | concealed
  | struck
  | doubleUnderline
  | framed
  | encircled
  | overlined
  deriving DecidableEq, Repr

namespace Emphasis

def all : List Emphasis :=
  [bold, dim, italic, underline, blink, fastBlink, inverted, concealed, struck, doubleUnderline, framed,
    encircled, overlined]

def name : Emphasis → String
  | bold => "bold"
  | dim => "dim"
  | italic => "italic"
  | underline => "underline"
  | blink => "blink"
  | fastBlink => "blink2"
  | inverted => "reverse"
  | concealed => "conceal"
  | struck => "strike"
  | doubleUnderline => "underline2"
  | framed => "frame"
  | encircled => "encircle"
  | overlined => "overline"

/-- The short name, if there is one. -/
def shortName : Emphasis → Option String
  | bold => some "b"
  | dim => some "d"
  | italic => some "i"
  | underline => some "u"
  | inverted => some "r"
  | concealed => some "c"
  | struck => some "s"
  | doubleUnderline => some "uu"
  | overlined => some "o"
  | _ => none

def ofWord? (word : List Char) : Option Emphasis :=
  all.find? fun emphasis =>
    word == emphasis.name.toList || some word == emphasis.shortName.map String.toList

end Emphasis

structure Style where
  /-- The emphases that are set or unset, the latest first. -/
  emphases : List (Emphasis × Bool)
  color : Option (List Char)
  ground : Option (List Char)
  address : Option (List Char)
  deriving DecidableEq, Repr

namespace Style

inductive Fault where
  /-- A text that names no style. -/
  | unknown
  /-- A share of a mixed colour that is no number, or none that can be read. -/
  | unreadableShare
  deriving DecidableEq, Repr

def plain : Style := ⟨[], none, none, none⟩

/-- What stands between the opening of a word and the closing bracket at its end. -/
def between? (opening : String) (word : List Char) : Option (List Char) :=
  if opening.toList.isPrefixOf word && word.getLast? == some ')' then
    some ((word.drop opening.length).dropLast)
  else none

def isHexDigit (c : Char) : Bool := c.isDigit || ('a' ≤ c && c ≤ 'f')

/-- The greatest share of a mixed colour, and the last of the numbered colours. -/
def greatest : Int := 255

def shareOf (digits : List Char) : Except Fault Int :=
  match (Text.Numeral.read? digits).bind Text.Numeral.value? with
  | some share => .ok share
  | none => .error .unreadableShare

/-- Checks a colour mixed from three shares. -/
def checkMixed (middle : List Char) : Except Fault Unit := do
  if middle = [] ∨ !middle.all (fun c => Text.isDigit c || c == ',') then throw .unknown
  match Text.splitAt ',' middle with
  | [red, green, blue] =>
    let red ← shareOf red
    let green ← shareOf green
    let blue ← shareOf blue
    if red ≤ greatest ∧ green ≤ greatest ∧ blue ≤ greatest then return () else throw .unknown
  | _ => throw .unknown

/-- Checks that a word in small letters is a colour. -/
def checkColor (word : List Char) : Except Fault Unit :=
  if colorNames.contains (String.ofList word) then .ok ()
  else if word.head? = some '#' then
    if word.length = 7 && word.tail.all isHexDigit then .ok () else .error .unknown
  else
    match between? "color(" word with
    | some number =>
      if number ≠ [] ∧ number.length ≤ 3 ∧ number.all Char.isDigit
          ∧ (Text.digitsValue number : Int) ≤ greatest then .ok ()
      else .error .unknown
    | none =>
      match between? "rgb(" word with
      | some shares => checkMixed shares
      | none => .error .unknown

/-- Reads words into a style that has been begun. -/
def readWords (style : Style) : List (List Char) → Except Fault Style
  | [] => .ok style
  | written :: rest =>
    let word := Text.lowercase written
    if word = "on".toList then
      match rest with
      | [] => .error .unknown
      | ground :: rest =>
        match checkColor (Text.lowercase ground) with
        | .ok _ => readWords { style with ground := some (Text.lowercase ground) } rest
        | .error fault => .error fault
    else if word = "not".toList then
      match rest with
      | [] => .error .unknown
      | name :: rest =>
        match Emphasis.ofWord? name with
        | some emphasis => readWords { style with emphases := (emphasis, false) :: style.emphases } rest
        | none => .error .unknown
    else if word = "link".toList then
      match rest with
      | [] => .error .unknown
      | address :: rest => readWords { style with address := some address } rest
    else
      match Emphasis.ofWord? word with
      | some emphasis => readWords { style with emphases := (emphasis, true) :: style.emphases } rest
      | none =>
        match checkColor word with
        | .ok _ => readWords { style with color := some word } rest
        | .error fault => .error fault

def read (text : List Char) : Except Fault Style :=
  if Text.strip text = "none".toList then .ok plain else readWords plain (Text.words text)

/-- The name of a style: its emphases in their own order, its colours and its address. -/
def name (style : Style) : List Char :=
  let emphases := Emphasis.all.filterMap fun emphasis =>
    (style.emphases.lookup emphasis).map fun set =>
      (if set then "" else "not ") ++ emphasis.name
  let part (opening : String) (text : Option (List Char)) : List String :=
    (text.map fun text => opening ++ String.ofList text).toList
  let words := emphases ++ part "" style.color ++ part "on " style.ground
    ++ part "link " style.address
  (if words = [] then "none" else Text.join " " words).toList

/-- The name that all names of one style have in common. -/
def normalName (text : List Char) : Except Fault (List Char) :=
  match read text with
  | .ok style => .ok style.name
  | .error .unknown => .ok (Text.lowercase (Text.strip text))
  | .error .unreadableShare => .error .unreadableShare

end Style

end CronClock.Console
