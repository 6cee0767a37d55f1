import CronClock.Decimal.Binary
import CronClock.Text.Numeral

/-! # Numbers in decimal notation

`Number.read?` reads decimal notation into the nearest binary fraction with 53 bits, or infinity beyond
the greatest one. `Number.shortestText` writes the fewest digits that are read back as the same number,
of those the nearest to it, in positional notation from 0.0001 up to sixteen digits before the point. -/
set_option autoImplicit false
namespace CronClock.Decimal

inductive Number where
  | finite (negative : Bool) (size : Binary)
  | infinite (negative : Bool)
  | notANumber
  deriving DecidableEq, Repr

namespace Binary

/-- Whether the fraction lies above all that 53 bits and eleven bits of exponent hold. -/
def isTooGreat (fraction : Binary) : Bool :=
  decide (0 ≤ fraction.exponent)
    && decide (Nat.pow 2 1024 ≤ fraction.significand * Nat.pow 2 fraction.exponent.toNat)

def quotient (fraction : Binary) : Nat × Nat :=
  if 0 ≤ fraction.exponent then (fraction.significand * Nat.pow 2 fraction.exponent.toNat, 1)
  else (fraction.significand, Nat.pow 2 (-fraction.exponent).toNat)

def isSame (fraction other : Binary) : Bool :=
  fraction.quotient.1 * other.quotient.2 == other.quotient.1 * fraction.quotient.2

end Binary

/-- A decimal number `digits * 10 ^ exponent`. -/
structure Scientific where
  digits : Nat
  exponent : Int
  deriving DecidableEq, Repr

namespace Scientific

def quotient (number : Scientific) : Nat × Nat :=
  if 0 ≤ number.exponent then (number.digits * Nat.pow 10 number.exponent.toNat, 1)
  else (number.digits, Nat.pow 10 (-number.exponent).toNat)

def nearest (number : Scientific) : Binary :=
  Binary.nearest number.quotient.1 number.quotient.2

/-- Exponents at which a number is too small or too great whatever its digits are. -/
def binary (negative : Bool) (number : Scientific) : Number :=
  let length := (toString number.digits).length
  if number.digits = 0 ∨ number.exponent + length < -400 then .finite negative (Binary.nearest 0 1)
  else if 400 < number.exponent then .infinite negative
  else if number.nearest.isTooGreat then .infinite negative
  else .finite negative number.nearest

/-- The distance of a decimal number from a fraction, over a denominator that all decimal numbers of one
exponent have in common. -/
def distance (fraction : Binary) (number : Scientific) : Nat :=
  let (left, leftUnder) := fraction.quotient
  let (right, rightUnder) := number.quotient
  ((left * rightUnder : Int) - (right * leftUnder : Int)).natAbs

/-- How many digits stand before the point: `10 ^ (n - 1) ≤ fraction < 10 ^ n`, from a first guess. -/
def lengthBefore (numerator denominator : Nat) : Nat → Int → Int
  | 0, guess => guess
  | steps + 1, guess =>
    let (above, under) := Scientific.quotient ⟨1, guess⟩
    let (below, belowUnder) := Scientific.quotient ⟨1, guess - 1⟩
    if above * denominator ≤ numerator * under then
      lengthBefore numerator denominator steps (guess + 1)
    else if numerator * belowUnder < below * denominator then
      lengthBefore numerator denominator steps (guess - 1)
    else guess

/-- The two neighbours of a fraction among the multiples of a power of ten. -/
def neighbours (fraction : Binary) (exponent : Int) : Scientific × Scientific :=
  let (numerator, denominator) := fraction.quotient
  let (unit, under) := Scientific.quotient ⟨1, exponent⟩
  let below := numerator * under / (denominator * unit)
  (⟨below, exponent⟩, ⟨below + 1, exponent⟩)

/-- The nearer of those neighbours that are read back as the fraction. -/
def readBack? (fraction : Binary) (exponent : Int) : Option Scientific :=
  let (below, above) := neighbours fraction exponent
  match below.nearest.isSame fraction, above.nearest.isSame fraction with
  | true, true =>
    if distance fraction above < distance fraction below then some above else some below
  | true, false => some below
  | false, true => some above
  | false, false => none

/-- The first grid with a number that is read back, from one digit on. -/
def shortestFrom (fraction : Binary) (length : Int) : Nat → Nat → Scientific
  | 0, digits => (neighbours fraction (length - digits)).1
  | more + 1, digits =>
    match readBack? fraction (length - digits) with
    | some number => number
    | none => shortestFrom fraction length more (digits + 1)

def shortest (fraction : Binary) : Scientific :=
  let (numerator, denominator) := fraction.quotient
  let guess := ((numerator.log2 : Int) - denominator.log2) * 3 / 10
  let length := lengthBefore numerator denominator 100 guess
  shortestFrom fraction length 17 1

def exponentText (exponent : Int) : List Char :=
  let size := (toString exponent.natAbs).toList
  (if exponent < 0 then '-' else '+') :: (zeros (2 - size.length) ++ size)

/-- The text of digits without trailing zeros whose first stands for `10 ^ (length - 1)`. -/
def layout (digits : List Char) (length : Int) : List Char :=
  if -3 ≤ length ∧ length ≤ 16 then
    if length ≤ 0 then '0' :: '.' :: (zeros (-length).toNat ++ digits)
    else
      let whole := length.toNat
      let fraction := if digits.length ≤ whole then ['0'] else digits.drop whole
      digits.take whole ++ zeros (whole - digits.length) ++ '.' :: fraction
  else
    let tail := if digits.length ≤ 1 then [] else '.' :: digits.drop 1
    digits.take 1 ++ tail ++ 'e' :: exponentText (length - 1)

def trimmed (digits : List Char) : List Char := (digits.reverse.dropWhile (· == '0')).reverse

def text (number : Scientific) : List Char :=
  let digits := (toString number.digits).toList
  layout (trimmed digits) (number.exponent + digits.length)

end Scientific

namespace Number

def signed (negative : Bool) (text : List Char) : List Char := if negative then '-' :: text else text

def shortestText : Number → String
  | finite negative size =>
    String.ofList (signed negative
      (if size.significand = 0 then ['0', '.', '0'] else (Scientific.shortest size).text))
  | infinite negative => String.ofList (signed negative "inf".toList)
  | notANumber => "nan"

def readExponent : List Char → Option Int
  | [] => some 0
  | letter :: rest =>
    let negative := rest.head? == some '-'
    let digits := if rest.head? == some '-' || rest.head? == some '+' then rest.tail else rest
    if (letter == 'e' || letter == 'E') && digits != [] && digits.all Char.isDigit then
      some (if negative then -(Text.digitsValue digits : Int) else Text.digitsValue digits)
    else none

/-- Digits with at most one point among, before or after them, and an exponent. -/
def readDecimal (negative : Bool) (text : List Char) : Option Number := do
  let whole := text.takeWhile Char.isDigit
  let rest := text.dropWhile Char.isDigit
  let pointed := rest.head? == some '.'
  let afterPoint := if pointed then rest.tail else rest
  let fraction := if pointed then afterPoint.takeWhile Char.isDigit else []
  let exponent ← readExponent (if pointed then afterPoint.dropWhile Char.isDigit else rest)
  if whole = [] ∧ fraction = [] then none
  else some (Scientific.binary negative
    ⟨Text.digitsValue (whole ++ fraction), exponent - fraction.length⟩)

/-- Reads a sign and decimal notation or a name, in any case, for what is not finite. -/
def read? (text : List Char) : Option Number :=
  let negative := text.head? == some '-'
  let size := if text.head? == some '-' || text.head? == some '+' then text.tail else text
  match String.ofList (size.map Char.toLower) with
  | "inf" => some (infinite negative)
  | "infinity" => some (infinite negative)
  | "nan" => some notANumber
  | _ => readDecimal negative size

end Number

end CronClock.Decimal
