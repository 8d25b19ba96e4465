import SqlSchema.Code.Grammar.Path
import SqlSchema.Code.Literal

/-!
One level of a pattern: names, literals, ranges, references, and patterns inside parentheses,
brackets or braces.
-/

namespace SqlSchema.CodeGrammar

/-! ## Alternatives -/

/-- Whether a bar between two patterns comes next. -/
def nextIsBar : Peek .inGroup := do
  return (← nextIs "|") && !(← nextIsOneOf ["||", "|="])

/-- Patterns with bars between them, and an optional one before the first. -/
def patterns : Reader .inGroup := do
  readIf nextIsBar (operator "|")
  Inner.pattern
  let _ ← readAll nextIsBar do
    operator "|"
    Inner.pattern

/-! ## Ranges -/

/-- Whether a path, with or without a type in front of it, can begin here. -/
def nextIsAnyPath : Peek .inGroup := do
  return (← nextIsPath) || (← nextIs "<")

/-- A path, with or without a type in front of it. -/
def anyPath (isExpression : Bool) : ReaderOf .inGroup CodeToken PathShape := do
  if ← nextIs "<" then
    qualifiedPath isExpression
    return ⟨false, false⟩
  else path isExpression

/-- The dots of a range, and whether they leave its end out. -/
def rangeDots : ReaderOf .inGroup CodeToken Bool := do
  if ← nextIs "..=" then
    operator "..="
    return false
  else if ← nextIs "..." then refuse
  else
    operator ".."
    return true

/-- Whether no bound of a range comes next in a pattern. -/
def nextIsRangeEnd : Peek .inGroup := do
  let isColon := (← nextIs ":") && !(← nextIs "::")
  return (← nextIsEnd) || isColon || (← nextIsOneOf ["|", "=", ",", ";"]) || (← nextIsWord "if")

/-- The bound of a range in a pattern. -/
def rangeBound : Reader .inGroup := do
  if ← nextIsLiteral then literal
  else if ← nextIsWord "const" then
    word
    Inner.block true
  else if ← nextIsAnyPath then
    let _ ← anyPath true
  else refuse

/-- The dots of a range with a start in a pattern, and whether they leave its end out. Three dots
are written as `..=`. -/
def patternDots : ReaderOf .inGroup CodeToken Bool := do
  if ← nextIs "..." then
    silently (operator "...")
    write (CodeToken.operator "..=")
    return false
  else rangeDots

/-- The end of a range in a pattern, which may only be missing where the dots leave it out. -/
def patternRange (readDots : ReaderOf .inGroup CodeToken Bool) : Reader .inGroup := do
  let leavesOut ← readDots
  if ← nextIsRangeEnd then if leavesOut then return else refuse
  else rangeBound

/-! ## Structures -/

/-- The number of a field, which has 32 bits. It is written in decimal digits alone. -/
def memberNumber? (chars : List Char) : Option CodeToken :=
  ((CodeLiteral.integerValue? chars).filter (· < UInt32.size)).map fun number =>
    .literal (toString number)

/-- The text of the literal that comes next. -/
def nextText? : ReaderOf .inGroup CodeToken (Option String) :=
  lookInGroup fun
    | .literal text :: _ => some text
    | _ => none

/-- The number or the name of a field. -/
def member : Reader .inGroup := do
  match ← nextText? with
  | some text =>
    match memberNumber? text.toList with
    | some number =>
      silently literal
      write [number]
    | none => refuse
  | none => name

/-- A field of a structure in a pattern: a variable by itself, or a field with its pattern. -/
def fieldPattern : Reader .inGroup := do
  if ← nextIsWordOf ["box", "ref", "mut"] then
    optionalWords ["box", "ref", "mut"]
    name
  else
    let isNamed ← nextIsName
    member
    if !(isNamed && !(← nextIs ":")) then
      operator ":"
      patterns

/-- The fields of a structure in a pattern. The last may stand for the others. -/
def fieldPatterns : Reader .inGroup :=
  iterate (fun _ => do
    if ← nextIsEnd then return .done ()
    let _ ← attributes
    if ← nextIs ".." then
      operator ".."
      return .done ()
    fieldPattern
    if ← nextIsEnd then return .done ()
    operator ","
    return .yield ()) ()

/-- A pattern that begins with a path. -/
def pathPattern : Reader .inGroup := do
  let found ← anyPath true
  if ← nextIsCall found then macroCall
  else if ← nextIsOpening .brace then between .brace fieldPatterns
  else if ← nextIsOpening .parenthesis then listInParens patterns
  else if ← nextIs ".." then patternRange patternDots

/-- A variable, which may be bound to what another pattern matches. -/
def variablePattern : Reader .inGroup := do
  optionalWords ["ref", "mut"]
  if ← nextIsWord "self" then word else name
  readIf (nextIs "@") do
    operator "@"
    Inner.pattern

/-- Whether a name is more than a variable. -/
def nextGoesOn : Peek .inGroup := do
  let isNamed := (← nextIsName) && ((← later 1 (nextIsOneOf ["::", "!", ".."]))
    || (← later 1 (nextIsOpening .brace)) || (← later 1 (nextIsOpening .parenthesis)))
  return isNamed || ((← nextIsWord "self") && (← later 1 (nextIs "::")))

/-! ## One level -/

/-- One level of a pattern. -/
def patternOf : Reader .inGroup := do
  if (← nextGoesOn) || (← nextIsOneOf ["::", "<"]) || (← nextIsWordOf ["Self", "super", "crate"])
  then pathPattern
  else if ← nextIsWord "_" then word
  else if (← nextIs "-") || (← nextIsLiteral) || (← nextIsWord "const") then
    rangeBound
    readIf (nextIs "..") (patternRange patternDots)
  else if (← nextIsName) || (← nextIsWordOf ["ref", "mut", "self"]) then variablePattern
  else if ← nextIs "&" then
    operator "&"
    optionalWord "mut"
    Inner.pattern
  else if ← nextIsOpening .parenthesis then listInParens patterns
  else if ← nextIsOpening .bracket then between .bracket (items patterns)
  else if ← nextIs ".." then patternRange rangeDots
  else refuse

end SqlSchema.CodeGrammar
