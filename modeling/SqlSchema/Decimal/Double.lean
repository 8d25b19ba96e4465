/-!
Binary floating-point numbers of 64 bits in exact integers. A decimal number becomes the nearest
one; of two that are equally near, the one with an even mantissa.
-/

namespace SqlSchema

/-- A floating-point number. A finite one has the size `mantissa * 2 ^ exponent`; the mantissa has
53 bits unless the exponent is the least one. -/
inductive Double where
  | finite (isNegative : Bool) (mantissa : Nat) (exponent : Int)
  | infinite (isNegative : Bool)
  | notANumber
  deriving DecidableEq, Repr

namespace Double

/-- The least exponent. -/
def leastExponent : Int := -1074

/-- The greatest exponent. -/
def greatestExponent : Int := 971

def isZero : Double → Bool
  | finite _ mantissa _ => mantissa == 0
  | _ => false

/-- A quotient rounded to the nearest number, halves to the even neighbour. -/
def roundHalfEven (numerator denominator : Nat) : Nat :=
  let quotient := numerator / denominator
  let twice := 2 * (numerator % denominator)
  if twice < denominator then quotient
  else if denominator < twice then quotient + 1
  else quotient + quotient % 2

/-- `factor * base ^ exponent` as a numerator and a denominator. -/
def scaled (factor base : Nat) (exponent : Int) : Nat × Nat :=
  if 0 ≤ exponent then (factor * base.pow exponent.toNat, 1)
  else (factor, base.pow (-exponent).toNat)

/-- The quotient of `numerator / denominator` and `2 ^ exponent` as a numerator and a
denominator. -/
def dividedByPower (numerator denominator : Nat) (exponent : Int) : Nat × Nat :=
  if 0 ≤ exponent then (numerator, denominator * Nat.pow 2 exponent.toNat)
  else (numerator * Nat.pow 2 (-exponent).toNat, denominator)

/-- The exponent with which a positive quotient has a mantissa of 53 bits, or the least exponent. -/
def exponentFor (numerator denominator : Nat) : Int :=
  let low : Int := (numerator.log2 : Int) - denominator.log2 - 53
  let (top, bottom) := dividedByPower numerator denominator low
  max leastExponent (if top / bottom < Nat.pow 2 53 then low else low + 1)

/-- The number nearest to a quotient. -/
def ofQuotient (isNegative : Bool) (numerator denominator : Nat) : Double :=
  if numerator = 0 then finite isNegative 0 leastExponent
  else
    let exponent := exponentFor numerator denominator
    let (top, bottom) := dividedByPower numerator denominator exponent
    let mantissa := roundHalfEven top bottom
    let (mantissa, exponent) :=
      if mantissa = Nat.pow 2 53 then (Nat.pow 2 52, exponent + 1) else (mantissa, exponent)
    if greatestExponent < exponent then infinite isNegative
    else finite isNegative mantissa exponent

/-- The number nearest to `digits * 10 ^ exponent`. Exponents that are out of all range are settled
without computing the power. -/
def ofDecimal (isNegative : Bool) (digits : Nat) (exponent : Int) : Double :=
  if digits = 0 || (digits.log2 : Int) + 1 + 3 * exponent < leastExponent - 2 && exponent < 0 then
    finite isNegative 0 leastExponent
  else if 309 < exponent then infinite isNegative
  else
    let (numerator, denominator) := scaled digits 10 exponent
    ofQuotient isNegative numerator denominator

example : ofDecimal false 15 (-1) = finite false (3 * 2 ^ 51) (-52) := by decide +kernel

example : ofDecimal true 1 400 = infinite true := by decide +kernel

end Double

end SqlSchema
