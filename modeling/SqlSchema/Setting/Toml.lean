import SqlSchema.Setting.Moment
import SqlSchema.Setting.Section
import SqlSchema.Text.Digit

/-!
Reading of settings files in TOML: sections, dotted keys, texts, numbers, booleans, dates, lists and
inline sections. A file with a mistake or a key that is set twice is refused.
-/

namespace SqlSchema.Toml

/-- Takes characters from the front, or refuses. -/
abbrev Reader := StateT (List Char) Option

/-! ## Characters -/

/-- Whether the text continues with `text`. -/
def nextIs (text : String) : Reader Bool :=
  return text.toList.isPrefixOf (← get)

/-- Takes `text` away. -/
def expect (text : String) : Reader Unit := do
  if ← nextIs text then modify (·.drop text.length) else failure

/-- Takes the characters at the front that satisfy `test`. -/
def takeWhile (test : Char → Bool) : Reader (List Char) := do
  let chars ← get
  set (chars.dropWhile test)
  return chars.takeWhile test

def isSpace (char : Char) : Bool :=
  char == ' ' || char == '\t'

def skipSpaces : Reader Unit := do
  let _ ← takeWhile isSpace

/-- Whether a character may stand in a text or a comment. -/
def isPlain (char : Char) : Bool :=
  char == '\t' || (32 ≤ char.toNat && char.toNat != 127)

/-- Takes a line end away, if there is one. -/
def skipLineEnd : Reader Bool := do
  if ← nextIs "\n" then
    expect "\n"
    return true
  else if ← nextIs "\r\n" then
    expect "\r\n"
    return true
  else return false

def skipComment : Reader Unit := do
  if ← nextIs "#" then
    let _ ← takeWhile isPlain

/-- Takes spaces, comments and line ends away, `count` lines of them at most. -/
def skipLines : Nat → Reader Unit
  | 0 => return ()
  | count + 1 => do
    skipSpaces
    skipComment
    if ← skipLineEnd then skipLines count

def skipAllLines : Reader Unit := do
  skipLines ((← get).length + 1)

/-! ## Texts -/

/-- A character given by `count` hexadecimal digits. -/
def numberedChar (count : Nat) : Reader Char := do
  let digits := (← get).take count
  let value := Text.hexValue digits
  if digits.length = count && digits.all Char.isHexDigit && value.isValidChar then
    modify (·.drop count)
    return Char.ofNat value
  else failure

/-- The character that an escape stands for, after its backslash. -/
def escapedChar : Reader Char := do
  match ← get with
  | letter :: rest =>
    set rest
    match letter with
    | 'b' => return '\x08'
    | 't' => return '\t'
    | 'n' => return '\n'
    | 'f' => return '\x0c'
    | 'r' => return '\r'
    | '"' => return '"'
    | '\\' => return '\\'
    | 'u' => numberedChar 4
    | 'U' => numberedChar 8
    | _ => failure
  | [] => failure

/-- The rest of a text between double quotes, `count` characters at most. -/
def basicText : Nat → Reader (List Char)
  | 0 => failure
  | count + 1 => do
    match ← get with
    | '"' :: rest => set rest; return []
    | '\\' :: rest =>
      set rest
      return (← escapedChar) :: (← basicText count)
    | char :: rest =>
      if isPlain char then
        set rest
        return char :: (← basicText count)
      else failure
    | [] => failure

/-- The rest of a text between single quotes. -/
def literalText : Reader (List Char) := do
  let chars ← takeWhile fun char => char != '\'' && isPlain char
  expect "'"
  return chars

/-- Whether only spaces stand before the end of the line. -/
def onlySpacesInLine (chars : List Char) : Bool :=
  match chars.dropWhile isSpace with
  | '\n' :: _ | '\r' :: '\n' :: _ => true
  | _ => false

/-- What follows spaces and line ends. A carriage return alone ends no line. -/
def afterBlanks : List Char → List Char
  | ' ' :: rest | '\t' :: rest | '\n' :: rest | '\r' :: '\n' :: rest => afterBlanks rest
  | chars => chars

/-- Up to two quotes that stand before the three at the end of a text of several lines. -/
def closingQuotes (quote : Char) : Reader (List Char) := do
  let quotes ← takeWhile (· == quote)
  let extra := quotes.length - 3
  if quotes.length < 3 || 2 < extra then failure
  else return List.replicate extra quote

/-- The rest of a text of several lines; in one between double quotes a backslash escapes, and at
the end of a line it joins the next text to the one before. -/
def longText (quote : Char) : Nat → Reader (List Char)
  | 0 => failure
  | count + 1 => do
    if ← nextIs (String.ofList [quote, quote, quote]) then closingQuotes quote
    else if ← skipLineEnd then return '\n' :: (← longText quote count)
    else
      match ← get with
      | char :: rest =>
        if char == '\\' && quote == '"' then
          if onlySpacesInLine rest then
            set (afterBlanks rest)
            longText quote count
          else
            set rest
            return (← escapedChar) :: (← longText quote count)
        else if isPlain char then
          set rest
          return char :: (← longText quote count)
        else failure
      | [] => failure

/-- A text with its quotes; `count` bounds its characters. -/
def quotedText (count : Nat) : Reader String := do
  if ← nextIs "\"\"\"" then
    expect "\"\"\""
    let _ ← skipLineEnd
    return String.ofList (← longText '"' count)
  else if ← nextIs "'''" then
    expect "'''"
    let _ ← skipLineEnd
    return String.ofList (← longText '\'' count)
  else if ← nextIs "\"" then
    expect "\""
    return String.ofList (← basicText count)
  else
    expect "'"
    return String.ofList (← literalText)

/-! ## Keys -/

def isKeyChar (char : Char) : Bool :=
  char.isAlphanum || char == '_' || char == '-'

/-- One part of a key. -/
def keyPart : Reader String := do
  if ← nextIs "\"" then
    expect "\""
    return String.ofList (← basicText ((← get).length + 1))
  else if ← nextIs "'" then
    expect "'"
    return String.ofList (← literalText)
  else
    let chars ← takeWhile isKeyChar
    if chars.isEmpty then failure else return String.ofList chars

/-- How many parts a key may have, and how many lists and inline sections may stand in one
another. -/
def greatestDepth : Nat := 79

/-- The parts of a dotted key before its last one, and that one; `count` parts at most. -/
def keyUpTo : Nat → Reader (List String × String)
  | 0 => failure
  | count + 1 => do
    skipSpaces
    let first ← keyPart
    skipSpaces
    if ← nextIs "." then
      expect "."
      let (before, last) ← keyUpTo count
      return (first :: before, last)
    else return ([], first)

/-- A key: the parts before its last one, and that one. -/
def key : Reader (List String × String) :=
  keyUpTo greatestDepth

/-! ## Numbers -/

/-- Digits in which single underscores may stand between two digits, without the underscores. -/
def withoutUnderscores : List Char → Option (List Char)
  | [] => some []
  | '_' :: _ => none
  | digit :: '_' :: next :: rest =>
    if next == '_' then none else (withoutUnderscores (next :: rest)).map (digit :: ·)
  | [_, '_'] => none
  | digit :: rest => (withoutUnderscores rest).map (digit :: ·)

/-- Digits of a number, at least one. -/
def digits (isDigit : Char → Bool) : Reader (List Char) := do
  let chars ← takeWhile fun char => isDigit char || char == '_'
  match withoutUnderscores chars with
  | some (first :: rest) => return first :: rest
  | _ => failure

/-- An integer within 64 bits. -/
def bounded (value : Int) : Reader Setting :=
  if Setting.fitsInteger value then return .integer value else failure

/-- The value of digits to a base. -/
def valueInBase (base : Nat) (digits : List Char) : Nat :=
  digits.foldl (fun value digit => base * value + Text.hexDigitValue digit) 0

/-- A number in another base than ten, after its sign `0x`, `0o` or `0b`. -/
def basedNumber (base : Nat) (isDigit : Char → Bool) : Reader Setting := do
  modify (·.drop 2)
  bounded (valueInBase base (← digits isDigit))

/-- The part of a number after its whole part: `.` and digits, and an exponent. -/
def fraction : Reader (List Char) := do
  let places ←
    if ← nextIs "." then
      expect "."
      pure ('.' :: (← digits Char.isDigit))
    else pure []
  if (← nextIs "e") || (← nextIs "E") then
    modify (·.drop 1)
    let sign ←
      if ← nextIs "-" then
        expect "-"
        pure ['-']
      else if ← nextIs "+" then
        expect "+"
        pure []
      else pure []
    return places ++ 'e' :: sign ++ (← digits Char.isDigit)
  else return places

/-- A number in base ten, whose sign has been read. -/
def decimalNumber (isNegative : Bool) : Reader Setting := do
  if ← nextIs "inf" then
    expect "inf"
    return .float (.infinite isNegative)
  else if ← nextIs "nan" then
    expect "nan"
    return .float .notANumber
  else
    let whole ← digits Char.isDigit
    if whole.head? = some '0' && whole.length ≠ 1 then failure
    else
      let rest ← fraction
      if rest.isEmpty then
        let size : Int := Setting.digitsValue whole
        bounded (if isNegative then -size else size)
      else
        match Setting.floatOf? ((if isNegative then ['-'] else []) ++ whole ++ rest) with
        | some number => if number = .infinite false then failure else return .float number
        | none => failure

def number : Reader Setting := do
  if ← nextIs "0x" then basedNumber 16 Char.isHexDigit
  else if ← nextIs "0o" then basedNumber 8 fun char => '0' ≤ char && char ≤ '7'
  else if ← nextIs "0b" then basedNumber 2 fun char => char == '0' || char == '1'
  else if ← nextIs "-" then
    expect "-"
    decimalNumber true
  else if ← nextIs "+" then
    expect "+"
    decimalNumber false
  else decimalNumber false

/-! ## Values -/

/-- The items of a list after its bracket, `count` at most. -/
def listItems (value : Reader Setting) : Nat → Reader (List Setting)
  | 0 => failure
  | count + 1 => do
    skipAllLines
    if ← nextIs "]" then
      expect "]"
      return []
    else
      let first ← value
      skipAllLines
      if ← nextIs "," then
        expect ","
        return first :: (← listItems value count)
      else
        expect "]"
        return [first]

/-- The key and the value of an assignment. -/
def assignment (value : Reader Setting) : Reader (List String × String × Setting) := do
  let (before, last) ← key
  expect "="
  skipSpaces
  return (before, last, ← value)

/-- The rest of an inline section, after its brace or a comma; `count` bounds its keys. -/
def inlineEntries (value : Reader Setting) :
    Nat → SectionNode.Entries → Reader SectionNode.Entries
  | 0, _ => failure
  | count + 1, entries => do
    let (before, last, setting) ← assignment value
    skipSpaces
    let entries ← SectionNode.assign [] before last setting entries
    if ← nextIs "," then
      expect ","
      inlineEntries value count entries
    else
      expect "\x7d"
      return entries

/-- An inline section. -/
def inlineSection (value : Reader Setting) : Reader Setting := do
  expect "\x7b"
  skipSpaces
  if ← nextIs "\x7d" then
    expect "\x7d"
    return .table []
  else
    let entries ← inlineEntries value (← get).length []
    return .table (SectionNode.finishEntries entries)

/-- A value that is no list and no inline section. -/
def scalar : Reader Setting := do
  if (← get).head?.any "\"'".toList.contains then
    return .text (← quotedText ((← get).length + 1))
  else if ← nextIs "true" then
    expect "true"
    return .boolean true
  else if ← nextIs "false" then
    expect "false"
    return .boolean false
  else
    match Moment.split (← get) with
    | some (moment, rest) =>
      set rest
      return .moment (String.ofList moment)
    | none => number

/-- A value in which at most `depth` lists and inline sections stand in one another. -/
def value : Nat → Reader Setting
  | 0 => scalar
  | depth + 1 => do
    if ← nextIs "[" then
      expect "["
      return .list (← listItems (value depth) ((← get).length + 1))
    else if ← nextIs "\x7b" then inlineSection (value depth)
    else scalar

/-! ## Files -/

/-- A file as far as it has been read: its entries and the header of the open section. -/
structure OpenFile where
  entries : SectionNode.Entries := []
  home : List String := []

/-- One line with a header or an assignment; an empty line changes nothing. -/
def line (file : OpenFile) : Reader OpenFile := do
  if ← nextIs "[[" then
    expect "[["
    let (before, last) ← key
    expect "]]"
    let entries ← SectionNode.openRepeated before last file.entries
    return { entries, home := before ++ [last] }
  else if ← nextIs "[" then
    expect "["
    let (before, last) ← key
    expect "]"
    let entries ← SectionNode.openSingle before last file.entries
    return { entries, home := before ++ [last] }
  else if (← get).head?.all "#\n\r".toList.contains then return file
  else
    let (before, last, setting) ← assignment (value greatestDepth)
    let entries ← SectionNode.assign file.home before last setting file.entries
    return { file with entries }

/-- All lines, `count` at most. -/
def lines : Nat → OpenFile → Reader OpenFile
  | 0, _ => failure
  | count + 1, file => do
    skipSpaces
    let file ← line file
    skipSpaces
    skipComment
    if (← get).isEmpty then return file
    else if ← skipLineEnd then lines count file
    else failure

/-- The text without a byte-order mark at its front. -/
def withoutMark (text : String) : String :=
  match text.toList with
  | '\uFEFF' :: rest => String.ofList rest
  | _ => text

/-- The entries of a settings file. -/
def read? (text : String) : Option (List (String × Setting)) :=
  let chars := (withoutMark text).toList
  ((lines (chars.length + 1) {}).run' chars).map fun file =>
    SectionNode.finishEntries file.entries

example :
    (read? "[a]\nb = 'x' # note\n[a.c]\nd.e = [1, 2.5,\n true]\n").map (fun entries =>
      entries.map Prod.fst) = some ["a"] := by
  decide +kernel

/-- A key that is set twice, or a section that is opened twice, is refused. -/
example : ["a = 1\na = 2", "[a]\n[a]", "a.b = 1\n[a]", "[a", "a = 01"].map (fun text =>
    (read? text).isSome) = [false, false, false, false, false] := by
  decide +kernel

end SqlSchema.Toml
