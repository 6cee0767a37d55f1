import CronClock.Text.DigitTable

/-! # Whole numbers in decimal digits of any script

A numeral is an optional minus sign and at least one digit, nothing else. Its value is bounded only
by the number of its digits, leading zeros counted: above `Numeral.longest` there is no value. -/
set_option autoImplicit false
namespace CronClock.Text

/-- The value of a decimal digit: its distance from the zero of its block. -/
def digitValue? (c : Char) : Option Nat :=
  let code := c.toNat
  if code < 0x80 then
    if 0x30 ≤ code ∧ code ≤ 0x39 then some (code - 0x30) else none
  else (digitZeros.find? fun start => start ≤ code && code < start + 10).map (code - ·)

def isDigit (c : Char) : Bool := (digitValue? c).isSome

/-- The positional value of digits; a character that is no digit counts as zero. -/
def digitsValue (digits : List Char) : Nat :=
  digits.foldl (fun value c => 10 * value + (digitValue? c).getD 0) 0

structure Numeral where
  negative : Bool
  digits : List Char
  deriving DecidableEq, Repr

namespace Numeral

/-- The most digits that a number is read from or written with. -/
def longest : Nat := 4300

/-- Whether a number has no more digits than are ever written. -/
def isWritable (number : Int) : Bool := (Nat.toDigits 10 number.natAbs).length ≤ longest

def read? : List Char → Option Numeral
  | '-' :: digits => if digits ≠ [] ∧ digits.all isDigit then some ⟨true, digits⟩ else none
  | digits => if digits ≠ [] ∧ digits.all isDigit then some ⟨false, digits⟩ else none

/-- Reads a whole text as two numerals with a dash between them. -/
def readPair? (text : List Char) : Option (Numeral × Numeral) :=
  let negative := text.head? = some '-'
  let body := if negative then text.tail else text
  let digits := body.takeWhile isDigit
  match body.dropWhile isDigit with
  | '-' :: high => if digits = [] then none else (read? high).map (⟨negative, digits⟩, ·)
  | _ => none

def value (numeral : Numeral) : Int :=
  if numeral.negative then -(digitsValue numeral.digits : Int) else digitsValue numeral.digits

def value? (numeral : Numeral) : Option Int :=
  if longest < numeral.digits.length then none else some numeral.value

end Numeral

end CronClock.Text
