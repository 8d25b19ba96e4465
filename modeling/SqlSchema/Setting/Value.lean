import SqlSchema.Decimal.Shortest

/-!
Values of settings, and how a value is read as a boolean, a text or a number.
-/

namespace SqlSchema

/-- A value of a settings file or of an environment variable. -/
inductive Setting where
  | boolean (value : Bool)
  | integer (value : Int)
  | float (value : Double)
  | text (value : String)
  /-- A date, a time of day or both, as written. -/
  | moment (value : String)
  | list (items : List Setting)
  | table (entries : List (String × Setting))
  /-- A gap in a list, before an item that has been set. -/
  | absent
  deriving Repr

namespace Setting

/-! ## Numbers -/

/-- The value of a list of decimal digits. -/
def digitsValue (digits : List Char) : Nat :=
  digits.foldl (fun value digit => 10 * value + (digit.toNat - '0'.toNat)) 0

/-- Whether a text is empty or made of digits. -/
def areDigits (chars : List Char) : Bool :=
  chars.all Char.isDigit

/-- A text without its sign, and whether the sign is a minus. -/
def splitSign : List Char → Bool × List Char
  | '-' :: rest => (true, rest)
  | '+' :: rest => (false, rest)
  | chars => (false, chars)

/-- Whether an integer has 64 bits with its sign. -/
def fitsInteger (value : Int) : Bool :=
  Int64.minValue.toInt ≤ value && value ≤ Int64.maxValue.toInt

/-- The integer of a sign and digits, within 64 bits. -/
def integerOf? (chars : List Char) : Option Int :=
  let (isNegative, digits) := splitSign chars
  if digits.isEmpty || !areDigits digits then none
  else
    let value : Int := if isNegative then -(digitsValue digits) else digitsValue digits
    if fitsInteger value then some value else none

/-- The exponent at the end of a number: nothing, or `e` with an optional sign and digits. -/
def exponentOf? : List Char → Option Int
  | [] => some 0
  | letter :: rest =>
    let (isNegative, digits) := splitSign rest
    if letter.toLower != 'e' || digits.isEmpty || !areDigits digits then none
    else some (if isNegative then -(digitsValue digits) else digitsValue digits)

/-- The floating-point number of a text: digits with an optional point and exponent, or the name of
a number that is not finite. -/
def floatOf? (chars : List Char) : Option Double :=
  let (isNegative, size) := splitSign chars
  let name := String.ofList (size.map Char.toLower)
  if name = "inf" || name = "infinity" then some (.infinite isNegative)
  else if name = "nan" then some .notANumber
  else
    let whole := size.takeWhile Char.isDigit
    let (places, rest) :=
      match size.dropWhile Char.isDigit with
      | '.' :: rest => (rest.takeWhile Char.isDigit, rest.dropWhile Char.isDigit)
      | rest => ([], rest)
    if whole.isEmpty && places.isEmpty then none
    else
      (exponentOf? rest).map fun exponent =>
        .ofDecimal isNegative (digitsValue (whole ++ places)) (exponent - places.length)

/-! ## Reading values -/

/-- The value of a text whose type is not declared: a boolean, an integer or another number if it
reads as one. -/
def ofPlainText (value : String) : Setting :=
  let lower := String.ofList (value.toList.map Char.toLower)
  if lower = "true" then boolean true
  else if lower = "false" then boolean false
  else
    match integerOf? value.toList with
    | some number => integer number
    | none =>
      match floatOf? value.toList with
      | some number => float number
      | none => text value

/-- The value as a boolean: a number is true unless it is zero, and some words are read. -/
def asBool? : Setting → Option Bool
  | boolean value => some value
  | integer value => some (value != 0)
  | float value => some (!value.isZero)
  | text value =>
    let lower := String.ofList (value.toList.map Char.toLower)
    if ["1", "true", "on", "yes"].contains lower then some true
    else if ["0", "false", "off", "no"].contains lower then some false
    else none
  | moment _ | list _ | table _ | absent => none

/-- The value as a text. -/
def asText? : Setting → Option String
  | boolean value => some (if value then "true" else "false")
  | integer value => some (toString value)
  | float value => some value.text
  | text value | moment value => some value
  | list _ | table _ | absent => none

example : ["007", "TRUE", "1.50", "-.5e1", "e5"].map (fun value => (ofPlainText value).asText?) =
    [some "7", some "true", some "1.5", some "-5", some "e5"] := by
  decide +kernel

example : ((ofPlainText "0.0").asBool?, (text "Off").asBool?, (text "x").asBool?) =
    (some false, some false, none) := by
  decide +kernel

end Setting

end SqlSchema
