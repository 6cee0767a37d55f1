import CronClock.Console.WidthTable
import CronClock.Text.Blank
import CronClock.Text.Lowercase

/-! # Lines of a limited width

A text falls into lines at its line ends, and each of these into lines no wider than a console. A word
stays whole if it fits on a line of its own; a word that does not is cut wherever the width is used up.
Blanks stay behind the word that they follow, and those at the end of a line are not shown. -/
set_option autoImplicit false
namespace CronClock.Console

/-- How many cells of a console a character takes. -/
def cells (c : Char) : Nat :=
  if 0x20 ≤ c.toNat ∧ c.toNat < 0x7F then 1
  else if Text.inRanges noCellRanges c.toNat then 0
  else if Text.inRanges twoCellRanges c.toNat then 2
  else 1

def width (text : List Char) : Nat := (text.map cells).foldl (· + ·) 0

def tab : Char := Char.ofNat 0x09

/-- The distance between two stops of the tabulator. -/
def tabStop : Nat := 8

/-- Puts spaces up to the next stop for each tabulator, from a column on. -/
def expandTabsFrom (column : Nat) : List Char → List Char
  | [] => []
  | c :: rest =>
    if c = tab then
      let count := tabStop - column % tabStop
      Text.spaces count ++ expandTabsFrom (column + count) rest
    else c :: expandTabsFrom (column + cells c) rest

def expandTabs (line : List Char) : List Char := expandTabsFrom 0 line

/-- Each word with the blanks after it, the first one also with the blanks before it. -/
def chunksAfter (leading : Bool) : List Char → List (List Char)
  | [] => []
  | [c] => [[c]]
  | c :: d :: rest =>
    let stillLeading := leading && Text.isBlank c
    if Text.isBlank c && !Text.isBlank d && !leading then [c] :: chunksAfter false (d :: rest)
    else Text.growFirst c (chunksAfter stillLeading (d :: rest))

def chunks (line : List Char) : List (List Char) := chunksAfter true line

/-- Cuts a text into pieces of a limited width, each as long as possible. -/
def chopAfter (limit : Nat) (piece : List Char) : List Char → List (List Char)
  | [] => [piece]
  | c :: rest =>
    if limit < width piece + cells c then piece :: chopAfter limit [c] rest
    else chopAfter limit (piece ++ [c]) rest

def chop (limit : Nat) (text : List Char) : List (List Char) := chopAfter limit [] text

/-- Sets chunks after the line that has been begun. -/
def fill (limit : Nat) (line : List Char) : List (List Char) → List (List Char)
  | [] => [line]
  | chunk :: rest =>
    let word := width (Text.stripRight chunk)
    if width line + word ≤ limit then fill limit (line ++ chunk) rest
    else if word ≤ limit then line :: fill limit chunk rest
    else
      let pieces := chop limit chunk
      (if line = [] then [] else [line]) ++ pieces.dropLast
        ++ fill limit ((pieces.getLast?).getD []) rest

/-- The lines of a text in a width, without the blanks at their ends. -/
def wrap (limit : Nat) (text : List Char) : List (List Char) :=
  (Text.splitAt Text.lineEnd text).flatMap fun line =>
    (fill limit [] (chunks (expandTabs line))).map Text.stripRight

/-- A line with as many spaces on its left as on its right, or one less, in a width. -/
def centred (limit : Nat) (line : List Char) : List Char :=
  Text.stripRight (Text.spaces ((limit - width line) / 2) ++ line)

end CronClock.Console
