import SqlSchema.Code.Grammar.Path

/-!
Blocks: statements between braces. A statement is a declaration of variables or of a constant, a
macro call, or an expression, which ends with a semicolon unless it is the last one or ends with a
block itself.
-/

namespace SqlSchema.CodeGrammar

variable {scope : Scope}

/-! ## Statements -/

/-- The value of a variable, and a block in its place if a pattern does not match. The block may not
follow a value that ends with a brace. -/
def variableValue : Reader .inGroup := do
  operator "="
  let endsWithBrace ← tellWritten (fun written => written.getLast? == some (.closing .brace))
    (Inner.expression true)
  if !endsWithBrace && (← nextIsWord "else") then
    word
    Inner.block false

/-- A declaration of variables. -/
def variableDeclaration : Reader .inGroup := do
  keyword "let"
  Inner.pattern
  readIf (nextIs ":") do
    operator ":"
    Inner.typeTokens true
  readIf (nextIs "=") variableValue
  operator ";"

/-- Whether the declaration of a constant comes next, and not a block or a function. -/
def nextIsConstantDeclaration : Peek .inGroup := do
  return (← nextIsWordOf ["const", "static"])
    && ((← later 1 nextIsName) || (← later 1 (nextIsWordOf ["_", "mut"])))

/-- A declaration of a constant. -/
def constantDeclaration : Reader .inGroup := do
  let isStatic ← nextIsWord "static"
  word
  if isStatic then optionalWord "mut"
  if !isStatic && (← nextIsWord "_") then word else name
  operator ":"
  Inner.typeTokens true
  readIf (nextIs "=") do
    operator "="
    Inner.expression true
  operator ";"

/-- A macro call with braces that is a statement by itself: nothing is done with its value. -/
def macroStatement : Reader .inGroup := do
  plainPath
  if !(← later 1 (nextIsOpening .brace)) then refuse
  macroCall
  if (← nextIs "?") || ((← nextIs ".") && !(← nextIs "..")) then refuse
  readIf (nextIs ";") (operator ";")

/-- An expression as a statement, and whether another statement may follow it. -/
def expressionStatement : ReaderOf .inGroup CodeToken Bool := do
  let shape ← Inner.statement
  let hasSemicolon ← nextIs ";"
  if hasSemicolon then operator ";"
  return hasSemicolon || shape = .block

/-- One statement, and whether another one may follow it. -/
def statement : ReaderOf .inGroup CodeToken Bool := do
  let _ ← attributes
  if ← nextIsWord "let" then
    variableDeclaration
    return true
  else if ← nextIsConstantDeclaration then
    constantDeclaration
    return true
  else
    firstOf (do macroStatement; return true) expressionStatement

/-! ## Blocks -/

/-- The statements up to the end of a block. -/
def statements : Reader .inGroup :=
  iterate (fun _ => do
    let _ ← readAll (nextIs ";") (operator ";")
    if ← nextIsEnd then return .done ()
    let isComplete ← statement
    if ← nextIsEnd then return .done ()
    if !isComplete then refuse
    return .yield ()) ()

/-- A block, which may begin with attributes of its own if `allowsAttributes` holds. -/
def blockOf (allowsAttributes : Bool) : Reader scope :=
  between .brace do
    if allowsAttributes then innerAttributes
    statements

end SqlSchema.CodeGrammar
