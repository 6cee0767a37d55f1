import CronClock.Field.Piece
import CronClock.Field.ValueSet
import CronClock.Text.Quoted

/-! # The expansion of a field

Expanding a field's text gives every value of the field or a set of some. A star piece gives every
value at once and hides the pieces after it; pieces that together fill the bounds give every value
too. The first faulty piece before a star decides the fault. -/
set_option autoImplicit false
namespace CronClock

open CronClock.Text (Numeral)

inductive Expansion where
  | every
  | only (values : ValueSet)
  deriving DecidableEq

/-- A piece's fault with the field's whole text, and the field if it is one of the five. -/
structure FieldFault where
  fault : PieceFault
  text : String
  field : Option Field
  deriving DecidableEq, Repr

namespace FieldFault

/-- What the fault says of the text; a number too long to read has no wording. -/
def message (complaint : FieldFault) : String :=
  let whole := Text.quote complaint.text
  match complaint.fault with
  | .spanForm token => "Malformed range " ++ Text.quote (String.ofList token) ++ " in " ++ whole
  | .numberForm token =>
    "Expected a number, got " ++ Text.quote (String.ofList token) ++ " in " ++ whole
  | .digitCount => ""
  | .stepNotPositive => "Step must be positive in " ++ whole
  | .emptySpan token low high =>
    "Range " ++ Text.quote (String.ofList token) ++ " in " ++ whole ++ " is empty after clamping ("
      ++ toString low ++ " > " ++ toString high ++ ")"

end FieldFault

namespace Expansion

def isEvery : Expansion → Bool
  | every => true
  | only _ => false

/-- Whether the expansion admits a number. -/
def admits : Expansion → Int → Bool
  | every, _ => true
  | only values, number => decide (number ∈ values)

/-- A set with as many members as the bounds span constrains nothing. -/
def ofValues (bounds : Bounds) (numbers : List Int) : Expansion :=
  let values := ValueSet.ofList numbers
  if (values.size : Int) = bounds.size then every else only values

/-- The numbers of all pieces, or none if a star comes up before any fault. -/
def collect (bounds : Bounds) : List (List Char) → Except PieceFault (Option (List Int))
  | [] => .ok (some [])
  | text :: rest => do
    let token := Piece.token bounds text
    match ← Piece.read token with
    | .star => return none
    | piece =>
      let numbers ← piece.values bounds token
      let others ← collect bounds rest
      return others.map (numbers ++ ·)

/-- Expands a text within any bounds. Before a piece is read, both bounds are written out in place of
their letters, so bounds with too many digits are at fault whatever the text says. -/
def within? (bounds : Bounds) (text : String) : Except PieceFault Expansion :=
  if Numeral.isWritable bounds.least && Numeral.isWritable bounds.greatest then do
    match ← collect bounds (Text.splitAt ',' text.toList) with
    | none => return every
    | some numbers => return ofValues bounds numbers
  else .error .digitCount

def withinBounds (bounds : Bounds) (text : String) : Except FieldFault Expansion :=
  (within? bounds text).mapError fun fault => ⟨fault, text, none⟩

def ofField (field : Field) (text : String) : Except FieldFault Expansion :=
  (within? field.bounds text).mapError fun fault => ⟨fault, text, some field⟩

end Expansion

end CronClock
