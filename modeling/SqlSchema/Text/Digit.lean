/-!
Values of digits.
-/

namespace SqlSchema.Text

/-- The value of a hexadecimal digit. -/
def hexDigitValue (digit : Char) : Nat :=
  if digit.isDigit then digit.toNat - '0'.toNat else digit.toLower.toNat - 'a'.toNat + 10

/-- The value of hexadecimal digits. -/
def hexValue (digits : List Char) : Nat :=
  digits.foldl (fun value digit => 16 * value + hexDigitValue digit) 0

example : hexValue "7fA".toList = 2042 := by decide +kernel

end SqlSchema.Text
