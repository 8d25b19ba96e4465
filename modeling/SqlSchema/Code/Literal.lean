import SqlSchema.Text.Digit
import SqlSchema.Text.IdentifierChar

/-!
Literals of code: quoted texts, plain or raw, single characters and numbers, each with an optional
suffix such as the `u8` of `7u8`. Every reader yields what follows the literal, if there is one at
the front of a text.
-/

namespace SqlSchema.CodeLiteral

/-- What follows a construct at the front of a text, if there is one. -/
abbrev Skip := List Char → Option (List Char)

/-! ## Words -/

/-- The word at the front of a text and what follows it. -/
def splitWord : List Char → Option (List Char × List Char)
  | [] => none
  | first :: rest =>
    if Text.isIdentifierStart first then
      some (first :: rest.takeWhile Text.isIdentifierPart, rest.dropWhile Text.isIdentifierPart)
    else none

/-- What follows the suffix of a literal, which may be missing. -/
def afterSuffix (chars : List Char) : List Char :=
  match splitWord chars with
  | some (_, rest) => rest
  | none => chars

/-! ## Escapes -/

/-- The kinds of quoted text. -/
inductive QuotedKind where
  | text
  /-- Bytes, which are written in ASCII. -/
  | bytes
  /-- A text that a zero ends, so that it contains none. -/
  | zeroEnded
  deriving DecidableEq, Repr

/-- Whether a character may stand for itself. -/
def QuotedKind.allows : QuotedKind → Char → Bool
  | text, _ => true
  | bytes, char => Text.isAscii char
  | zeroEnded, char => char != '\x00'

/-- What follows the two digits of the escape of a byte. -/
def afterByte? (kind : QuotedKind) : Skip
  | first :: second :: rest =>
    let isAllowed :=
      match kind with
      | .text => first ≤ '7'
      | .bytes => true
      | .zeroEnded => first != '0' || second != '0'
    if first.isHexDigit && second.isHexDigit && isAllowed then some rest else none
  | _ => none

/-- The number of a character up to its closing brace, and what follows. It has up to six digits, of
which `count` with the value `value` have been read; underscores may stand after the first. -/
def splitNumber (count value : Nat) : List Char → Option (Nat × List Char)
  | [] => none
  | char :: rest =>
    if char = '\x7d' then
      if 0 < count && value.isValidChar then some (value, rest) else none
    else if char = '_' then if 0 < count then splitNumber count value rest else none
    else if char.isHexDigit && count < 6 then
      splitNumber (count + 1) (16 * value + Text.hexDigitValue char) rest
    else none

/-- What follows an escape whose backslash has been read. -/
def afterEscape? (kind : QuotedKind) : Skip
  | [] => none
  | 'x' :: rest => afterByte? kind rest
  | 'u' :: '\x7b' :: rest =>
    match kind, splitNumber 0 0 rest with
    | .text, some (_, rest) => some rest
    | .zeroEnded, some (value, rest) => if value = 0 then none else some rest
    | _, _ => none
  | '0' :: rest => if kind = .zeroEnded then none else some rest
  | char :: rest => if "nrt\\'\"".toList.contains char then some rest else none

/-- What follows line ends and blanks. A carriage return alone is refused. -/
def afterLineEnds? : Skip
  | [] => none
  | '\n' :: rest | '\r' :: '\n' :: rest | ' ' :: rest | '\t' :: rest => afterLineEnds? rest
  | '\r' :: _ => none
  | chars => some chars

/-! ## Quoted texts -/

/-- What follows a quoted text whose opening quote has been read; `count` bounds its characters. A
backslash at the end of a line takes the blanks after it away. -/
def afterQuoted? (kind : QuotedKind) : Nat → Skip
  | 0, _ => none
  | count + 1, chars =>
    match chars with
    | [] => none
    | '"' :: rest => some (afterSuffix rest)
    | '\\' :: rest =>
      let isLineEnd := rest.head?.any fun char => char == '\n' || char == '\r'
      (if isLineEnd then afterLineEnds? rest else afterEscape? kind rest).bind
        (afterQuoted? kind count)
    | '\r' :: '\n' :: rest => afterQuoted? kind count rest
    | '\r' :: _ => none
    | char :: rest => if kind.allows char then afterQuoted? kind count rest else none

/-- What follows a raw text whose opening quote has been read; it ends with a quote and `marks`. -/
def afterRaw? (kind : QuotedKind) (marks : List Char) : Skip
  | [] => none
  | '\r' :: '\n' :: rest => afterRaw? kind marks rest
  | '\r' :: _ => none
  | char :: rest =>
    if char = '"' && marks.isPrefixOf rest then some (afterSuffix (rest.drop marks.length))
    else if kind.allows char then afterRaw? kind marks rest
    else none

/-- What follows a raw text whose letters have been read. -/
def afterRawOpening? (kind : QuotedKind) (chars : List Char) : Option (List Char) :=
  let marks := chars.takeWhile (· == '#')
  match chars.dropWhile (· == '#') with
  | '"' :: rest => if marks.length ≤ 255 then afterRaw? kind marks rest else none
  | _ => none

/-- What follows a single character whose opening quote has been read. -/
def afterCharacter? (kind : QuotedKind) (chars : List Char) : Option (List Char) :=
  let afterFirst :=
    match chars with
    | '\\' :: rest => afterEscape? kind rest
    | char :: rest => if kind.allows char then some rest else none
    | [] => none
  match afterFirst with
  | some ('\'' :: rest) => some (afterSuffix rest)
  | _ => none

/-! ## Numbers -/

def isDigitOrLine (char : Char) : Bool :=
  char.isDigit || char == '_'

/-- What follows an exponent after its letter: underscores, a sign if `hasSign` does not hold, and
digits. -/
def afterExponent? (hasSign : Bool) : Skip
  | [] => none
  | char :: rest =>
    if char = '_' then afterExponent? hasSign rest
    else if char = '+' || char = '-' then if hasSign then none else afterExponent? true rest
    else if char.isDigit then some (rest.dropWhile isDigitOrLine)
    else none

def isExponentLetter (char : Char) : Bool :=
  char == 'e' || char == 'E'

/-- What follows a number with a point or an exponent, without its suffix. A point before another
point or before a name is not part of a number. -/
def afterFloat? (chars : List Char) : Option (List Char) :=
  match chars.dropWhile isDigitOrLine with
  | '.' :: rest =>
    if rest.head?.any fun char => char == '.' || Text.isIdentifierStart char then none
    else
      let places := rest.dropWhile isDigitOrLine
      match places with
      | letter :: exponent =>
        if isExponentLetter letter then some ((afterExponent? false exponent).getD places)
        else some places
      | [] => some places
  | letter :: exponent => if isExponentLetter letter then afterExponent? false exponent else none
  | [] => none

/-- What follows the digits of an integer, of which there is at least one. -/
def afterDigits? (base : Nat) (isEmpty : Bool) : Skip
  | [] => if isEmpty then none else some []
  | char :: rest =>
    if char = '_' then afterDigits? base isEmpty rest
    else if char.isHexDigit && Text.hexDigitValue char < base then afterDigits? base false rest
    else if isEmpty || char.isDigit then none
    else some (char :: rest)

/-- The base of an integer and what follows the mark of the base. -/
def splitBase : List Char → Nat × List Char
  | '0' :: 'x' :: rest => (16, rest)
  | '0' :: 'o' :: rest => (8, rest)
  | '0' :: 'b' :: rest => (2, rest)
  | chars => (10, chars)

/-- What follows an integer, without its suffix. -/
def afterInteger? (chars : List Char) : Option (List Char) :=
  let (base, rest) := splitBase chars
  afterDigits? base true rest

/-- What follows the suffix of a number, which nothing that continues a word may follow. -/
def afterNumberSuffix? (chars : List Char) : Option (List Char) :=
  let rest := afterSuffix chars
  if rest.head?.any Text.isIdentifierPart then none else some rest

/-- What follows a number that begins with a digit. -/
def afterNumber? (chars : List Char) : Option (List Char) :=
  ((afterFloat? chars).bind afterNumberSuffix?).orElse fun _ =>
    (afterInteger? chars).bind afterNumberSuffix?

/-- The value of an integer without a suffix. -/
def integerValue? (chars : List Char) : Option Nat :=
  let (base, digits) := splitBase chars
  let digits := digits.filter (· != '_')
  if !digits.isEmpty && digits.all fun digit => digit.isHexDigit && Text.hexDigitValue digit < base
  then some (digits.foldl (fun value digit => base * value + Text.hexDigitValue digit) 0)
  else none

example : ["1_0", "0x1f", "0b11", "7u8", "1e5", "'1'"].map (fun text => integerValue? text.toList) =
    [some 10, some 31, some 3, none, none, none] := by
  decide +kernel

/-! ## Literals -/

/-- What follows a literal. -/
def after? (chars : List Char) : Option (List Char) :=
  match chars with
  | '"' :: rest => afterQuoted? .text chars.length rest
  | 'r' :: rest => afterRawOpening? .text rest
  | 'b' :: '"' :: rest => afterQuoted? .bytes chars.length rest
  | 'b' :: 'r' :: rest => afterRawOpening? .bytes rest
  | 'b' :: '\'' :: rest => afterCharacter? .bytes rest
  | 'c' :: '"' :: rest => afterQuoted? .zeroEnded chars.length rest
  | 'c' :: 'r' :: rest => afterRawOpening? .zeroEnded rest
  | '\'' :: rest => afterCharacter? .text rest
  | char :: _ => if char.isDigit then afterNumber? chars else none
  | [] => none

/-- The literal at the front of a text and what follows it. -/
def split (chars : List Char) : Option (List Char × List Char) :=
  (after? chars).map fun rest => (chars.take (chars.length - rest.length), rest)

example :
    ["1.5e-3f64+", "1..2", "0x1_f.", "'\\n'", "r#\"a\"b\"#.", "b\"\\xff\" x",
          "\"\\u\x7b41\x7d\"u8,"].map
        (fun text => (split text.toList).map fun (front, _) => String.ofList front) =
      [some "1.5e-3f64", some "1", some "0x1_f", some "'\\n'", some "r#\"a\"b\"#",
        some "b\"\\xff\"", some "\"\\u\x7b41\x7d\"u8"] := by
  decide +kernel

/-- Digits that the base does not have, escapes that stand for nothing and open quotes are
refused. -/
example : ["0x", "0b2", "1٣", "'\\q'", "'ab'", "\"\\x80\"", "c\"\\0\"", "b'é'", "\"a"].map
    (fun text => (split text.toList).isSome) =
      [false, false, false, false, false, false, false, false, false] := by
  decide +kernel

end SqlSchema.CodeLiteral
