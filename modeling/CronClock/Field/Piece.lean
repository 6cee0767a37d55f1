import CronClock.Field
import CronClock.Text.Blank
import CronClock.Text.Lowercase
import CronClock.Text.Numeral

/-! # The pieces of a field's text

A field's text is a list of pieces between commas. A piece is a star, one number, a span `low-high`
or steps `start/step`; it is read after stripping, in small letters, and with the letters `f` and `l`
replaced by the digits of the field's bounds. `Piece.read` finds the form of a token and its numbers,
`Piece.values` the bounded numbers that a form stands for. -/
set_option autoImplicit false
namespace CronClock

open CronClock.Text (Numeral)

inductive Piece where
  | star
  | single (number : Int)
  | span (low high : Int)
  | steps (start step : Int)
  deriving DecidableEq, Repr

/-- Why a piece stands for no numbers. -/
inductive PieceFault where
  /-- A dash after the first character, but not two numbers around it. -/
  | spanForm (token : List Char)
  | numberForm (token : List Char)
  /-- A number with more digits than are ever read or written. -/
  | digitCount
  | stepNotPositive
  | emptySpan (token : List Char) (low high : Int)
  deriving DecidableEq, Repr

namespace Piece

/-- Every letter `mark` becomes the decimal text of a number. -/
def replaceLetter (mark : Char) (number : Int) (token : List Char) : List Char :=
  token.flatMap fun c => if c = mark then (toString number).toList else [c]

/-- A piece's text as the grammar reads it. -/
def token (bounds : Bounds) (text : List Char) : List Char :=
  replaceLetter 'l' bounds.greatest
    (replaceLetter 'f' bounds.least (Text.lowercase (Text.strip text)))

def readValue (numeral : Numeral) : Except PieceFault Int :=
  match numeral.value? with
  | some number => .ok number
  | none => .error .digitCount

def readNumber (token : List Char) : Except PieceFault Int :=
  match Numeral.read? token with
  | some numeral => readValue numeral
  | none => .error (.numberForm token)

def readSpan (token : List Char) : Except PieceFault Piece :=
  match Numeral.readPair? token with
  | none => .error (.spanForm token)
  | some (low, high) => do
    let lowNumber ← readValue low
    let highNumber ← readValue high
    return .span lowNumber highNumber

/-- An absent start counts as zero. -/
def readStart (token : List Char) : Except PieceFault Int :=
  if token = [] ∨ token = ['*'] then .ok 0 else readNumber token

def readSteps (token : List Char) : Except PieceFault Piece := do
  let start ← readStart (token.takeWhile (· != '/'))
  let step ← readNumber (token.dropWhile (· != '/')).tail
  return .steps start step

/-- The form of a token. A dash in front is a sign; any later dash makes the token a span, and only
then does a stroke make it steps. -/
def read (token : List Char) : Except PieceFault Piece :=
  if token = ['*'] then .ok .star
  else if '-' ∈ token.tail then readSpan token
  else if '/' ∈ token then readSteps token
  else (readNumber token).map .single

/-- The numbers `first, first + step, …` up to `last`, for a positive step. -/
def progression (first last step : Int) : List Int :=
  (List.range ((last - first) / step + 1).toNat).map fun (index : Nat) => first + step * (index : Int)

/-- The numbers of a piece, each bound by the field; the token is wanted for the complaint only. -/
def values (bounds : Bounds) (token : List Char) : Piece → Except PieceFault (List Int)
  | star => .ok (progression bounds.least bounds.greatest 1)
  | single number => .ok [bounds.clamp number]
  | span low high =>
    if bounds.clamp high < bounds.clamp low then
      .error (.emptySpan token (bounds.clamp low) (bounds.clamp high))
    else .ok (progression (bounds.clamp low) (bounds.clamp high) 1)
  | steps start step =>
    if bounds.clamp step ≤ 0 then .error .stepNotPositive
    else .ok (progression (bounds.clamp start) bounds.greatest (bounds.clamp step))

end Piece

end CronClock
