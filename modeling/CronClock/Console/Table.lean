import CronClock.Console.Markup
import CronClock.Console.Wrap
import CronClock.Printer

/-! # Tables

A table stands in a box with heavy strokes around the headers. A column is as wide as its widest cell, and
the title is centred over the whole. -/
set_option autoImplicit false
namespace CronClock.Console

/-- The strokes of one line of a box: on the left, in a cell, between two cells, on the right. -/
structure Strokes where
  left : Char
  cell : Char
  between : Char
  right : Char

namespace Strokes

def top : Strokes := ⟨'┏', '━', '┳', '┓'⟩
def headers : Strokes := ⟨'┃', ' ', '┃', '┃'⟩
def belowHeaders : Strokes := ⟨'┡', '━', '╇', '┩'⟩
def row : Strokes := ⟨'│', ' ', '│', '│'⟩
def bottom : Strokes := ⟨'└', '─', '┴', '┘'⟩

/-- A line of cells, each with one more stroke or space on both sides. -/
def line (strokes : Strokes) (widths : List Nat) (cells : List (List Char)) : List Char :=
  let filled := List.zipWith
    (fun room text => strokes.cell :: text ++ List.replicate (room - width text + 1) strokes.cell)
    widths cells
  strokes.left :: [strokes.between].intercalate filled ++ [strokes.right]

end Strokes

end CronClock.Console

namespace CronClock.Table

open Console

def cellTexts (row : List String) : List (List Char) := row.map String.toList

def columnWidths (table : Table) : List Nat :=
  table.rows.foldl (fun widths row => List.zipWith max widths ((cellTexts row).map width))
    ((cellTexts table.headers).map width)

/-- The width of the box: each column has a space on both sides and a stroke on its left. -/
def boxWidth (table : Table) : Nat := (table.columnWidths.map (· + 3)).foldl (· + ·) 1

def boxLines (table : Table) : List (List Char) :=
  let widths := table.columnWidths
  let stroke (strokes : Strokes) := strokes.line widths (widths.map fun _ => [])
  stroke .top :: Strokes.headers.line widths (cellTexts table.headers) :: stroke .belowHeaders
    :: table.rows.map (fun row => Strokes.row.line widths (cellTexts row)) ++ [stroke .bottom]

def lines (table : Table) : Except MarkupFault (List (List Char)) :=
  (render table.title.toList).map fun title =>
    (wrap table.boxWidth title).map (centred table.boxWidth) ++ table.boxLines

end CronClock.Table
