import SqlSchema.Decimal.Double

/-!
Shortest decimals: the fewest digits that read back as a floating-point number, and of these the
nearest to it. They are written positionally, whatever the exponent.
-/

namespace SqlSchema.Double

/-! ## Digits -/

/-- A decimal number `digits * 10 ^ exponent`. -/
structure Decimal where
  digits : Nat
  exponent : Int
  deriving DecidableEq, Repr

/-- The bounds between which a decimal reads back as `mantissa * 2 ^ exponent`, in units of
`2 ^ (exponent - 2)`. -/
def readingBounds (mantissa : Nat) (exponent : Int) : Nat × Nat :=
  let low :=
    if mantissa = Nat.pow 2 52 && leastExponent < exponent then 4 * mantissa - 1
    else 4 * mantissa - 2
  (low, 4 * mantissa + 2)

/-- Whether a decimal reads back as `mantissa * 2 ^ exponent`; the bounds themselves do if the
mantissa is even. -/
def readsBack (mantissa : Nat) (exponent : Int) (decimal : Decimal) : Bool :=
  let (low, high) := readingBounds mantissa exponent
  let (top, bottom) := scaled decimal.digits 10 decimal.exponent
  let (top, bottom) := dividedByPower top bottom (exponent - 2)
  if mantissa % 2 = 0 then low * bottom ≤ top && top ≤ high * bottom
  else low * bottom < top && top < high * bottom

/-- The exponent of ten of the first digit of a positive quotient. -/
def firstDigitExponent (numerator denominator : Nat) : Int :=
  if denominator ≤ numerator then ((Nat.toDigits 10 (numerator / denominator)).length : Int) - 1
  else
    match (List.range 330).find? fun places => denominator ≤ numerator * Nat.pow 10 places with
    | some places => -(places : Int)
    | none => 0

/-- Of the two decimals with the given exponent around a quotient, those that read back; the nearer
one comes first, and of two equally near the greater one. -/
def neighbours (mantissa : Nat) (exponent : Int) (tenExponent : Int) : List Decimal :=
  let (top, bottom) := scaled mantissa 2 exponent
  let (top, bottom) :=
    if 0 ≤ tenExponent then (top, bottom * Nat.pow 10 tenExponent.toNat)
    else (top * Nat.pow 10 (-tenExponent).toNat, bottom)
  let below : Decimal := ⟨top / bottom, tenExponent⟩
  let above : Decimal := ⟨top / bottom + 1, tenExponent⟩
  let ordered := if 2 * (top % bottom) < bottom then [below, above] else [above, below]
  ordered.filter (readsBack mantissa exponent)

/-- The same decimal without one zero at its end. -/
def Decimal.withoutZero (decimal : Decimal) : Decimal :=
  if decimal.digits % 10 = 0 then ⟨decimal.digits / 10, decimal.exponent + 1⟩ else decimal

/-- The shortest decimal that reads back as `mantissa * 2 ^ exponent`. Seventeen digits always do,
and a zero at the end only comes from a nine that is rounded up to ten. -/
def shortest (mantissa : Nat) (exponent : Int) : Decimal :=
  let (top, bottom) := scaled mantissa 2 exponent
  let first := firstDigitExponent top bottom
  let found :=
    (List.range 17).findSome? fun count : Nat =>
      (neighbours mantissa exponent (first - count)).head?
  (found.getD ⟨mantissa, exponent⟩).withoutZero

/-! ## Text -/

/-- The positional text of a decimal, with a point only before digits. -/
def positional (decimal : Decimal) : String :=
  let digits := Nat.toDigits 10 decimal.digits
  if 0 ≤ decimal.exponent then
    String.ofList (digits ++ List.replicate decimal.exponent.toNat '0')
  else
    let places := (-decimal.exponent).toNat
    let padded := List.replicate (places + 1 - digits.length) '0' ++ digits
    String.ofList
      (padded.take (padded.length - places) ++ '.' :: padded.drop (padded.length - places))

/-- The text of a floating-point number. -/
def text : Double → String
  | notANumber => "NaN"
  | infinite isNegative => if isNegative then "-inf" else "inf"
  | finite isNegative mantissa exponent =>
    (if isNegative then "-" else "")
      ++ (if mantissa = 0 then "0" else positional (shortest mantissa exponent))

example :
    [ofDecimal false 150 (-2), ofDecimal true 1 (-3), ofDecimal false 1 5,
        ofDecimal false 3 (-1), ofDecimal true 0 0].map text =
      ["1.5", "-0.001", "100000", "0.3", "-0"] := by
  decide +kernel

/-- The least positive number has one digit. -/
example : shortest 1 (-1074) = ⟨5, -324⟩ := by decide +kernel

/-- A number just below a power of ten is written with the digit of that power. -/
example : text (ofDecimal false 1 (-11)) = "0.00000000001" := by decide +kernel

end SqlSchema.Double
