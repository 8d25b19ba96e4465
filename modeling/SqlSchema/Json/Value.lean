/-!
JSON values and the text they are written as: two spaces for each level, the keys of an object in
order.
-/

namespace SqlSchema

/-- A JSON value. -/
inductive JsonValue where
  | null
  | bool (value : Bool)
  /-- A number without point or exponent. -/
  | integer (value : Int)
  /-- A number with a point or an exponent: `mantissa` with the point moved `places` to the left. -/
  | decimal (mantissa : Int) (places : Nat)
  | string (value : String)
  | array (items : List JsonValue)
  | object (fields : List (String × JsonValue))
  deriving Inhabited, Repr

namespace JsonValue

/-- The value of a field. -/
def field? (fields : List (String × JsonValue)) (key : String) : Option JsonValue :=
  (fields.find? fun field => field.1 == key).map Prod.snd

/-! ## Order of keys -/

mutual

/-- The value with the fields of every object ordered by key. -/
def ordered : JsonValue → JsonValue
  | array items => array (orderedItems items)
  | object fields =>
    object ((orderedFields fields).mergeSort fun left right => !(right.1 < left.1 : Bool))
  | value => value

def orderedItems : List JsonValue → List JsonValue
  | [] => []
  | item :: rest => ordered item :: orderedItems rest

def orderedFields : List (String × JsonValue) → List (String × JsonValue)
  | [] => []
  | (key, value) :: rest => (key, ordered value) :: orderedFields rest

end

/-! ## Text -/

/-- The two low hexadecimal digits of a number. -/
def hexPair (value : Nat) : String :=
  String.ofList [Nat.digitChar (value / 16 % 16), Nat.digitChar (value % 16)]

/-- A character as it stands in a JSON string. -/
def escapeChar (char : Char) : String :=
  if char = '"' then "\\\""
  else if char = '\\' then "\\\\"
  else if char = '\n' then "\\n"
  else if char = '\r' then "\\r"
  else if char = '\t' then "\\t"
  else if char.toNat = 8 then "\\b"
  else if char.toNat = 12 then "\\f"
  else if char.toNat < 32 then "\\u00" ++ hexPair char.toNat
  else String.singleton char

/-- A text as a JSON string. -/
def quote (text : String) : String :=
  "\"" ++ String.join (text.toList.map escapeChar) ++ "\""

/-- The start of a new line at a level. -/
def newLine (level : Nat) : String :=
  "\n" ++ String.ofList (List.replicate (2 * level) ' ')

/-- A decimal number. -/
def decimalText (mantissa : Int) (places : Nat) : String :=
  let digits := toString mantissa.natAbs
  let padded := String.ofList (List.replicate (places + 1 - digits.length) '0') ++ digits
  let whole := String.ofList (padded.toList.take (padded.length - places))
  let fraction := String.ofList (padded.toList.drop (padded.length - places))
  (if mantissa < 0 then "-" else "") ++ whole ++ "." ++ fraction

mutual

/-- The text of a value that stands at a level. -/
def textAt (level : Nat) : JsonValue → String
  | null => "null"
  | bool value => if value then "true" else "false"
  | integer value => toString value
  | decimal mantissa places => decimalText mantissa places
  | string value => quote value
  | array [] => "[]"
  | array (item :: rest) =>
    "[" ++ newLine (level + 1) ++ textAt (level + 1) item ++ itemsText (level + 1) rest
      ++ newLine level ++ "]"
  | object [] => "\x7b\x7d"
  | object ((key, value) :: rest) =>
    "\x7b" ++ newLine (level + 1) ++ quote key ++ ": " ++ textAt (level + 1) value
      ++ fieldsText (level + 1) rest ++ newLine level ++ "\x7d"

/-- Further items of an array, each after a comma. -/
def itemsText (level : Nat) : List JsonValue → String
  | [] => ""
  | item :: rest => "," ++ newLine level ++ textAt level item ++ itemsText level rest

/-- Further fields of an object, each after a comma. -/
def fieldsText (level : Nat) : List (String × JsonValue) → String
  | [] => ""
  | (key, value) :: rest =>
    "," ++ newLine level ++ quote key ++ ": " ++ textAt level value ++ fieldsText level rest

end

/-- The text of a value. -/
def text (value : JsonValue) : String :=
  textAt 0 value.ordered

/-- A level is two spaces, and an empty list takes no lines. -/
example : (object [("a", array [string "x\ty", null]), ("b", array [])]).textAt 0 =
    "\x7b\n  \"a\": [\n    \"x\\ty\",\n    null\n  ],\n  \"b\": []\n\x7d" := by
  decide +kernel

end JsonValue

end SqlSchema
