import SqlSchema.Code.Grammar.Path

/-!
Bounds: traits and lifetimes with `+` between them, and the parameters that a bound or a function
type introduces.
-/

namespace SqlSchema.CodeGrammar

variable {scope : Scope}

/-! ## Function traits -/

/-- A result type, if there is one: an arrow and a type that no `+` follows. -/
def result : Reader scope :=
  readIf (nextIs "->") do
    operator "->"
    Inner.typeTokens false

/-- Whether the arguments of a function trait come next. -/
def nextIsParens : Peek scope := do
  return (← nextIsOpening .parenthesis) || (← afterColons (nextIsOpening .parenthesis))

/-- The arguments and the result of a function trait. A `::` before them is not written. -/
def traitArguments : Reader scope := do
  silently (readIf (nextIs "::") (operator "::"))
  listInParens (Inner.typeTokens true)
  result

/-! ## Places of bounds -/

/-- What bounds are bounds of. It decides what may stand among them besides traits and
lifetimes. -/
inductive BoundPlace where
  | object
  /-- A parameter or an associated type, where a trait may be constant. -/
  | parameter
  /-- A type that has no name, where a trait may be constant, and which captures parameters. -/
  | anonymous
  deriving DecidableEq, Repr

def BoundPlace.allowsConstant (place : BoundPlace) : Bool :=
  place != .object

def BoundPlace.allowsCapture (place : BoundPlace) : Bool :=
  place == .anonymous

/-! ## Single bounds -/

/-- The parameters that `for` introduces. -/
def introduced : Reader scope := do
  keyword "for"
  listInAngles Inner.parameter

/-- The mark of a constant trait, which may stand between brackets. -/
def constantMark : Reader scope := do
  if ← nextIsOpening .bracket then between .bracket (keyword "const") else keyword "const"

/-- Whether the mark of a constant trait comes next. -/
def nextIsConstantMark : Peek scope := do
  return (← nextIsOpening .bracket) || (← nextIsWord "const")

/-- A trait as a bound. One that may be missing introduces no parameters, and a constant one is kept
as it stands. -/
def traitBound (place : BoundPlace) : Reader scope :=
  asItStandsIf do
    let introduces ← nextIsWord "for"
    if introduces then introduced
    let isConstant := place.allowsConstant && (← nextIsConstantMark)
    if isConstant then constantMark
    if introduces && (← nextIs "?") then refuse
    readIf (nextIs "?") (operator "?")
    let found ← path false
    if found.endsPlain then readIf nextIsParens traitArguments
    return isConstant

/-- The parameters that a type captures. -/
def captured : Reader scope := do
  keyword "use"
  argumentsInAngles do
    let isLifetime ← nextIsLifetime
    if isLifetime then lifetime
    else if (← nextIsName) || (← nextIsWord "Self") then word
    else refuse
    return isLifetime

/-- One bound, and whether it is a trait. -/
def bound (place : BoundPlace) : ReaderOf scope CodeToken Bool := do
  if ← nextIsLifetime then
    lifetime
    return false
  else if place.allowsCapture && (← nextIsWord "use") then
    captured
    return false
  else if ← nextIsOpening .parenthesis then
    between .parenthesis (traitBound place)
    return true
  else
    traitBound place
    return true

/-! ## Several bounds -/

/-- Whether a bound can come next. -/
def nextIsBound (place : BoundPlace) : Peek scope := do
  return (← nextIsAnyWord) || (← nextIsLifetime) || (← nextIsOpening .parenthesis)
    || (← nextIsOneOf ["::", "?"]) || (place.allowsConstant && (← nextIsOpening .bracket))

/-- The bounds after the first, each after a `+`, and an optional `+` at the end. Tells whether one
of all bounds is a trait, if it is known whether the first one is. -/
def moreBounds (place : BoundPlace) (isTrait : Bool) : ReaderOf scope CodeToken Bool :=
  iterate (fun hasTrait => do
    if ← nextIs "+" then
      operator "+"
      if ← nextIsBound place then return .yield (hasTrait || (← bound place))
      else return .done hasTrait
    else return .done hasTrait) isTrait

/-- Bounds, only one of them unless `+` is allowed, and whether one of them is a trait. -/
def bounds (place : BoundPlace) (allowsPlus : Bool) : ReaderOf scope CodeToken Bool := do
  let isTrait ← bound place
  if allowsPlus then moreBounds place isTrait else return isTrait

/-- Bounds of which one has to be a trait. -/
def traitBounds (place : BoundPlace) (allowsPlus : Bool) : Reader scope := do
  if !(← bounds place allowsPlus) then refuse

/-- The bounds of a parameter or of an associated type. -/
def parameterBounds : Reader scope := do
  let _ ← bounds .parameter true

/-- A colon and bounds up to a mark that ends them. A colon without bounds is not written. -/
def declaredBounds (ends : List Char) : Reader scope := do
  if ← nextIs ":" then
    silently (operator ":")
    if !(← nextCloses ends) then
      write (CodeToken.operator ":")
      parameterBounds

/-! ## Parameters -/

/-- The bounds of a lifetime up to a comma or `>`. A colon without bounds is not written. -/
def lifetimeBounds : Reader scope := do
  if ← nextIs ":" then
    silently (operator ":")
    if !(← nextCloses [',', '>']) then
      write (CodeToken.operator ":")
      lifetime
      let _ ← readAll (nextIs "+") do
        operator "+"
        if !(← nextCloses [',', '>']) then lifetime

/-- A parameter that `for` introduces: a lifetime, a type or a constant. -/
def parameterOf : Reader scope := do
  let _ ← attributes
  if ← nextIsLifetime then
    lifetime
    lifetimeBounds
  else if ← nextIsWord "const" then
    word
    name
    operator ":"
    Inner.typeTokens true
    readIf (nextIs "=") do
      operator "="
      if ← nextIsName then word else constant
  else
    name
    declaredBounds [',', '>', '=']
    readIf (nextIs "=") do
      operator "="
      Inner.typeTokens true

end SqlSchema.CodeGrammar
