import SqlSchema.Code.Grammar.Reader

/-!
Paths: names with `::` between them, each with arguments if it has any, and the attributes before a
construct.
-/

namespace SqlSchema.CodeGrammar

variable {scope : Scope}

/-! ## Arguments -/

/-- An argument between angle brackets. -/
structure Argument where
  isLifetime : Bool
  tokens : List CodeToken

/-- Arguments as they are written: lifetimes first, whatever the order in which they stand. The
comma at the end stays if it is there, and appears if a lifetime came last. -/
def writtenArguments (arguments : List Argument) (hasFinalComma : Bool) : List CodeToken :=
  let lifetimes := arguments.filter Argument.isLifetime
  let others := arguments.filter fun argument => !argument.isLifetime
  let endsMoved := !others.isEmpty && arguments.getLast?.any Argument.isLifetime
  CodeToken.commaSeparated ((lifetimes ++ others).map Argument.tokens) ++
    (if hasFinalComma || endsMoved then [.mark ',' false] else [])

/-- The arguments up to `>`, and whether a comma follows the last. Of each, `argument` tells whether
it is a lifetime. -/
def argumentsUntilAngle (argument : ReaderOf scope CodeToken Bool) :
    ReaderOf scope Argument Bool :=
  iterate (fun hasComma => do
    if ← silently (nextCloses ['>']) then return .done hasComma
    let _ ← mapWritten (fun isLifetime tokens => [⟨isLifetime, tokens⟩]) argument
    if ← silently (nextCloses ['>']) then return .done false
    silently (operator ",")
    return .yield true) false

/-- Arguments of one kind between angle brackets. -/
def argumentsInAngles (argument : ReaderOf scope CodeToken Bool) : Reader scope := do
  operator "<"
  let _ ← mapWritten (fun hasFinalComma arguments => writtenArguments arguments hasFinalComma)
    (argumentsUntilAngle argument)
  operator ">"

/-- The arguments of a segment. -/
def angleArguments : Reader scope := do
  readIf (nextIs "::") (operator "::")
  argumentsInAngles Inner.argument

/-- Whether `::` comes next and `peek` holds after it. -/
def afterColons (peek : Peek scope) : Peek scope := do
  return (← nextIs "::") && (← later 2 peek)

/-- Whether arguments between angle brackets come next; in an expression `::` has to precede
them. -/
def nextIsAngle (isExpression : Bool) : Peek scope := do
  let isPlain := (← nextIs "<") && !(← nextIsOneOf ["<=", "<<="])
  return (!isExpression && isPlain) || (← afterColons (nextIs "<"))

/-! ## Segments -/

/-- What matters about a path for what may follow it. -/
structure PathShape where
  /-- Whether no segment has arguments. -/
  isPlain : Bool
  /-- Whether the last segment has no arguments. -/
  endsPlain : Bool

/-- The words that stand for a place in the tree of modules; they take no arguments. -/
def moduleWords : List String :=
  ["super", "self", "crate", "try"]

/-- One segment of a path. -/
def segment (isExpression : Bool) : ReaderOf scope CodeToken PathShape := do
  if ← nextIsWordOf moduleWords then
    word
    return ⟨true, true⟩
  else if (← nextIsName) || (← nextIsWord "Self") then
    word
    if ← nextIsAngle isExpression then
      angleArguments
      return ⟨false, false⟩
    else return ⟨true, true⟩
  else refuse

/-- The segments after the first. A `::` before a parenthesis belongs to the arguments of a function
trait. -/
def moreSegments (isExpression : Bool) (first : PathShape) : ReaderOf scope CodeToken PathShape :=
  iterate (fun path => do
    if (← nextIs "::") && !(← afterColons (nextIsOpening .parenthesis)) then
      operator "::"
      let next ← segment isExpression
      return .yield ⟨path.isPlain && next.isPlain, next.endsPlain⟩
    else return .done path) first

/-! ## Paths -/

/-- A path. -/
def path (isExpression : Bool) : ReaderOf scope CodeToken PathShape := do
  readIf (nextIs "::") (operator "::")
  moreSegments isExpression (← segment isExpression)

/-- A path that begins with a type between angle brackets, whose trait may be named. -/
def qualifiedPath (isExpression : Bool) : Reader scope := do
  operator "<"
  Inner.typeTokens true
  readIf (nextIsWord "as") do
    word
    let _ ← path false
  operator ">"
  let hasSegments ← readAll (nextIs "::") do
    operator "::"
    let _ ← segment isExpression
  if !hasSegments then refuse

/-- Whether a path without a type in front of it can begin here. -/
def nextIsPath : Peek scope := do
  return (← nextIsName) || (← nextIsWordOf Identifier.pathKeywords) || (← nextIs "::")

/-- Whether the mark of a macro call comes after a path. -/
def nextIsCall (path : PathShape) : Peek scope := do
  return path.isPlain && (← nextIs "!") && !(← nextIs "!=")

/-- The mark and the tokens of a macro call. -/
def macroCall : Reader scope := do
  operator "!"
  group

/-- A segment without arguments. -/
def plainSegment : Reader scope := do
  if (← nextIsName) || (← nextIsWordOf Identifier.pathKeywords) then word else refuse

/-- A path whose segments have no arguments. -/
def plainPath : Reader scope := do
  readIf (nextIs "::") (operator "::")
  plainSegment
  let _ ← readAll (nextIs "::") do
    operator "::"
    plainSegment

/-! ## Constants -/

/-- Whether a constant comes next that may stand between angle brackets. -/
def nextIsConstant : Peek scope := do
  return (← nextIsLiteral) || (← nextIsOpening .brace)

/-- A constant: a literal or a block. -/
def constant : Reader scope := do
  if ← nextIsLiteral then literal else Inner.block true

/-! ## Attributes -/

/-- Whether a literal comes next that nothing follows in its group. -/
def nextIsLastLiteral : Peek .inGroup :=
  lookInGroup fun tokens => (splitLiteral tokens).any fun (_, rest) => rest.isEmpty

/-- What an attribute says: a path with any tokens between delimiters or with a value, which has no
attributes. -/
def attributeMeaning : Reader .inGroup := do
  if ← nextIsWord "unsafe" then word else plainPath
  if ← nextIsGroup then group
  else if ← nextIs "=" then
    operator "="
    if (← nextIs "#") && (← later 1 (nextIsOpening .bracket)) then refuse
    if ← nextIsLastLiteral then literal else Inner.expression true

/-- The attributes before a construct, if there are any. -/
def attributes : ReaderOf scope CodeToken Bool :=
  readAll (nextIs "#") do
    operator "#"
    between .bracket attributeMeaning

/-- The attributes of a construct that stand inside it. -/
def innerAttributes : Reader scope := do
  let _ ← readAll (do return (← nextIs "#") && (← later 1 (nextIs "!"))) do
    operator "#"
    operator "!"
    between .bracket attributeMeaning

end SqlSchema.CodeGrammar
