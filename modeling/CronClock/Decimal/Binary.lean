/-! # Binary fractions of limited precision

`nearest` gives the binary fraction with 53 significant bits that lies nearest to a quotient of natural
numbers, the even one of two. `places` writes a binary fraction with a fixed number of decimal places,
again to the nearest and, of two, to the even last digit. -/
set_option autoImplicit false
namespace CronClock.Decimal

def zeros (count : Nat) : List Char := List.replicate count '0'

/-- The number `significand * 2 ^ exponent`. -/
structure Binary where
  significand : Nat
  exponent : Int
  deriving DecidableEq, Repr

/-- The quotient rounded to the nearest whole number, a half to the even one. -/
def roundedQuotient (numerator denominator : Nat) : Nat :=
  let whole := numerator / denominator
  let rest := numerator % denominator
  if 2 * rest < denominator then whole
  else if denominator < 2 * rest then whole + 1
  else whole + whole % 2

/-- The quotient scaled by a power of two and rounded. -/
def scaledQuotient (numerator denominator : Nat) (exponent : Int) : Nat :=
  if 0 ≤ exponent then roundedQuotient numerator (denominator * Nat.pow 2 exponent.toNat)
  else roundedQuotient (numerator * Nat.pow 2 (-exponent).toNat) denominator

namespace Binary

def precision : Nat := 53

def leastExponent : Int := -1074

/-- The exponent at which a quotient has 53 bits before the point, or one more. -/
def exponentOf (numerator denominator : Nat) : Int :=
  (numerator.log2 : Int) - denominator.log2 - precision

/-- The nearest binary fraction to a quotient with a positive denominator. -/
def nearest (numerator denominator : Nat) : Binary :=
  if numerator = 0 then ⟨0, leastExponent⟩
  else
    let near := exponentOf numerator denominator
    let fits (exponent : Int) : Bool :=
      scaledQuotient numerator denominator exponent < Nat.pow 2 precision
    let exponent := if fits near then near else near + 1
    let exponent := max exponent leastExponent
    ⟨scaledQuotient numerator denominator exponent, exponent⟩

/-- The fraction times a power of ten, rounded to a whole number. -/
def scaled (places : Nat) (fraction : Binary) : Nat :=
  if 0 ≤ fraction.exponent then
    fraction.significand * Nat.pow 2 fraction.exponent.toNat * Nat.pow 10 places
  else roundedQuotient (fraction.significand * Nat.pow 10 places) (Nat.pow 2 (-fraction.exponent).toNat)

def fixedText (places : Nat) (fraction : Binary) : String :=
  let units := scaled places fraction
  let part := toString (units % Nat.pow 10 places)
  toString (units / Nat.pow 10 places) ++ "." ++ String.ofList (zeros (places - part.length)) ++ part

end Binary

end CronClock.Decimal
