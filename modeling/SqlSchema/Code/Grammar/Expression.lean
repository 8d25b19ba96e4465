import SqlSchema.Code.Grammar.Bound
import SqlSchema.Code.Grammar.Operator

/-!
One level of an expression, as it stands for the length of an array: the constructs that an operand
can be, and what stands before and after them.
-/

namespace SqlSchema.CodeGrammar

/-! ## Operands -/

/-- The items of a list of expressions between parentheses. -/
def expressionsInParens : Reader .inGroup :=
  listInParens (Inner.expression true)

/-- What stands between brackets: the items of a list, or an item and how often it stands there. -/
def bracketed : Reader .inGroup :=
  between .bracket do
    if !(← nextIsEnd) then
      Inner.expression true
      if ← nextIs ";" then
        operator ";"
        Inner.expression true
      else if ← nextIs "," then
        operator ","
        items (Inner.expression true)

/-- A field of a structure with its value, which may be left out after a name. -/
def fieldValue : Reader .inGroup := do
  let _ ← attributes
  let isNamed ← nextIsName
  member
  let hasColon := (← nextIs ":") && !(← nextIs "::")
  if !(isNamed && !hasColon) then
    operator ":"
    Inner.expression true

/-- The fields of a structure, and the structure that the others come from. -/
def fieldValues : Reader .inGroup :=
  iterate (fun _ => do
    if ← nextIsEnd then return .done ()
    if ← nextIs ".." then
      operator ".."
      if !(← nextIsEnd) then Inner.expression true
      return .done ()
    fieldValue
    if ← nextIsEnd then return .done ()
    operator ","
    return .yield ()) ()

/-- An operand that begins with a path: the path, a macro call or a structure with its fields. -/
def pathOperand (allowsStruct : Bool) : Reader .inGroup := do
  let found ← anyPath true
  if ← nextIsCall found then macroCall
  else if allowsStruct && (← nextIsOpening .brace) then between .brace fieldValues

/-- Whether an operand that begins with a path comes next. -/
def nextIsPathOperand : Peek .inGroup := do
  let isTry := (← nextIsWord "try") && (← later 1 (nextIsOneOf ["!", "::"]))
  return (← nextIsAnyPath) || isTry

/-! ## Constructs with blocks -/

/-- Conditions with their blocks. -/
def conditional : Reader .inGroup :=
  iterate (fun _ => do
    keyword "if"
    Inner.expression false
    Inner.block false
    if !(← nextIsWord "else") then return .done ()
    word
    if ← nextIsWord "if" then return .yield ()
    Inner.block false
    return .done ()) ()

/-- Whether a loop comes next, and not parameters that a closure introduces. -/
def nextIsLoop : Peek .inGroup := do
  let introduces := (← later 1 (nextIs "<"))
    && ((← later 2 nextIsLifetime) || (← later 2 (nextIsOneOfInGroup [">"])))
  return (← nextIsWordOf ["loop", "while"]) || ((← nextIsWord "for") && !introduces)

/-- A loop. -/
def loop : Reader .inGroup := do
  if ← nextIsWord "loop" then word
  else if ← nextIsWord "while" then
    word
    Inner.expression false
  else
    keyword "for"
    patterns
    keyword "in"
    Inner.expression false
  Inner.block true

/-- The cases of a `match`. A case that ends with a block needs no comma. -/
def cases : Reader .inGroup :=
  iterate (fun _ => do
    if ← nextIsEnd then return .done ()
    let _ ← attributes
    patterns
    readIf (nextIsWord "if") do
      word
      Inner.expression true
    operator "=>"
    let shape ← Inner.statement
    let mayEnd := (← nextIsEnd) || shape = .block
    if !mayEnd || (← nextIs ",") then operator ","
    return .yield ()) ()

/-- A choice between cases. -/
def choice : Reader .inGroup := do
  keyword "match"
  Inner.expression false
  between .brace do
    innerAttributes
    cases

/-- Whether a construct comes next that ends with a block. -/
def nextIsBlockLike : Peek .inGroup := do
  let isMarked := (← nextIsWordOf ["const", "try"]) && (← later 1 (nextIsOpening .brace))
  return (← nextIsOpening .brace) || (← nextIsWordOf ["if", "match", "unsafe"])
    || (← nextIsLoop) || (← nextIsLifetime) || isMarked

/-- A construct that ends with a block. -/
def blockLike : Reader .inGroup := do
  if ← nextIsOpening .brace then Inner.block true
  else if ← nextIsWord "if" then conditional
  else if ← nextIsWord "match" then choice
  else if ← nextIsLifetime then
    lifetime
    operator ":"
    if ← nextIsLoop then loop else Inner.block true
  else if ← nextIsLoop then loop
  else if ← nextIsWord "try" then
    word
    Inner.block false
  else if ← nextIsWordOf ["const", "unsafe"] then
    word
    Inner.block true
  else refuse

/-! ## Closures and jumps -/

/-- Whether a closure comes next. -/
def nextIsClosure : Peek .inGroup := do
  let isConstant := (← nextIsWord "const") && !(← later 1 (nextIsOpening .brace))
  let isAsync := (← nextIsWord "async")
    && ((← later 1 (nextIs "|")) || (← later 1 (nextIsWord "move")))
  let introduces := (← nextIsWord "for") && !(← nextIsLoop)
  return (← nextIs "|") || (← nextIsWordOf ["move", "static"]) || introduces || isConstant
    || isAsync

/-- An argument of a closure, which may have a type. -/
def closureArgument : Reader .inGroup := do
  let _ ← attributes
  Inner.pattern
  readIf (nextIs ":") do
    operator ":"
    Inner.typeTokens true

/-- A closure. One with a result type has a block for its value. -/
def closure (allowsStruct : Bool) : Reader .inGroup := do
  readIf (nextIsWord "for") introduced
  optionalWords ["const", "static", "async", "move"]
  operator "|"
  itemsUntil (nextIs "|") closureArgument
  operator "|"
  if ← nextIs "->" then
    operator "->"
    Inner.typeTokens true
    Inner.block false
  else Inner.expression allowsStruct

/-- A jump, with its label and its value if it has them. -/
def jump (allowsStruct : Bool) : Reader .inGroup := do
  let isBreak ← nextIsWord "break"
  let takesLabel ← nextIsWordOf ["break", "continue"]
  let takesValue := !(← nextIsWord "continue")
  word
  let hasLabel := takesLabel && (← nextIsLifetime)
  if hasLabel then lifetime
  let isLoop := hasLabel && (← nextIs ":")
  let isBlock := isBreak && !allowsStruct && (← nextIsOpening .brace)
  if isBreak && isLoop then refuse
  else if takesValue && !isBlock && (← nextIsExpression) then Inner.expression true

/-- A call that takes the place of the caller, kept as it stands. -/
def finalCall : Reader .inGroup :=
  asItStandsIf do
    keyword "become"
    Inner.expression true
    return true

/-! ## Operands with what stands before and after them -/

/-- An operand by itself. `operand` reads what stands after a sign. -/
def atom (allowsStruct : Bool) (operand : Operand) : Operand := do
  let isAsyncBlock := (← nextIsWord "async") && ((← later 1 (nextIsOpening .brace))
    || ((← later 1 (nextIsWord "move")) && (← later 2 (nextIsOpening .brace))))
  if ← nextIsLiteral then
    literal
    return .other
  else if isAsyncBlock then
    optionalWords ["async", "move"]
    Inner.block false
    return .other
  else if ← nextIsBlockLike then
    blockLike
    return .block
  else if ← nextIsClosure then
    closure allowsStruct
    return .other
  else if ← nextIsPathOperand then
    pathOperand allowsStruct
    return .other
  else if ← nextIsOpening .parenthesis then
    expressionsInParens
    return .other
  else if ← nextIsOpening .bracket then
    bracketed
    return .other
  else if ← nextIsWordOf ["break", "continue", "return", "yield"] then
    jump allowsStruct
    return .other
  else if ← nextIsWord "become" then
    finalCall
    return .other
  else if ← nextIsWord "let" then
    word
    patterns
    operator "="
    let _ ← continued allowsStruct operand (← stepsLeft) .comparison (← operand)
    return .other
  else if ← nextIs ".." then
    let leavesOut ← rangeDots
    if !(leavesOut && (← nextIsOpenEnd allowsStruct)) then
      let _ ← rightOf allowsStruct operand (← stepsLeft) .range (← operand)
    return .range
  else if ← nextIsWord "_" then
    word
    return .other
  else refuse

/-- What follows a point: `await`, or a member, which may have arguments if it has a name. -/
def memberAfterPoint : Reader .inGroup := do
  if ← nextIsWord "await" then word
  else
    let isNamed ← nextIsName
    member
    if isNamed && (← nextIs "::") then
      angleArguments
      if !(← nextIsOpening .parenthesis) then refuse

/-- A point and what follows it. A literal such as `0.1` is two members, and after one that ends
with a point comes another member. -/
def memberAccess : Reader .inGroup := do
  let point := CodeToken.operator "."
  operator "."
  match ← nextText? with
  | some text =>
    let parts := text.toList.splitOn '.'
    let endsOpen := parts.getLast? = some []
    match (if endsOpen then parts.dropLast else parts).mapM memberNumber? with
    | some numbers =>
      silently literal
      write (point.intercalate (numbers.map ([·])))
      if endsOpen then
        write point
        memberAfterPoint
    | none => refuse
  | none => memberAfterPoint

/-- A call, an index, a member or a question mark after an operand. -/
def suffix : Reader .inGroup := do
  if ← nextIsOpening .parenthesis then expressionsInParens
  else if ← nextIsOpening .bracket then between .bracket (Inner.expression true)
  else if ← nextIs "?" then operator "?"
  else memberAccess

/-- A sign before an operand. -/
def sign : Reader .inGroup := do
  if ← nextIs "&" then
    operator "&"
    if (← nextIsWord "raw") && (← later 1 (nextIsWordOf ["mut", "const"])) then
      word
      word
    else optionalWord "mut"
  else if ← nextIs "*" then operator "*"
  else if ← nextIs "!" then operator "!"
  else operatorInGroup "-"

/-- All suffixes of an expression, of which a range has none. -/
def suffixes (shape : ExpressionShape) : Operand := do
  if shape = .range then return shape
  else return if ← readAll nextIsSuffix suffix then .other else shape

/-- An operand with its attributes, signs and suffixes, at most `depth` operands deep. A range that
begins here has no attributes. -/
def operandUpTo (allowsStruct : Bool) : Nat → Operand
  | 0 => refuse
  | depth + 1 => do
    let operand := operandUpTo allowsStruct depth
    let hasAttributes ← attributes
    if ← nextIsOneOf ["&", "*", "!", "-"] then
      sign
      let _ ← operand
      return .other
    else
      let shape ← suffixes (← atom allowsStruct operand)
      if shape = .range && hasAttributes then refuse else return shape

/-- An operand. -/
def operand (allowsStruct : Bool) : Operand := do
  operandUpTo allowsStruct (← lookInGroup List.length)

/-! ## One level -/

/-- One level of an expression. -/
def expressionOf (allowsStruct : Bool) : Operand := do
  let operand := operand allowsStruct
  continued allowsStruct operand (← stepsLeft) .none (← operand)

/-- One level of an expression as a statement. A block at the front ends it unless a point or a
question mark follows. -/
def statementOf : Operand := do
  let _ ← attributes
  if ← nextIsBlockLike then
    blockLike
    if (← nextIsPoint) || (← nextIs "?") then
      continued true (operand true) (← stepsLeft) .none (← suffixes .other)
    else return .block
  else expressionOf true

end SqlSchema.CodeGrammar
