import SqlSchema.Code.Grammar.Bound

/-!
One level of a type: the types, expressions and parameters inside it are left to the runs that its
reader is given.
-/

namespace SqlSchema.CodeGrammar

variable {scope : Scope}

/-! ## Arguments of paths -/

/-- An associated type or constant with its value, such as `Item = u8`, or with its bounds. -/
def binding : Reader scope := do
  let _ ← segment false
  if ← nextIs "=" then
    operator "="
    if ← nextIsConstant then constant else Inner.typeTokens true
  else
    operator ":"
    if !(← nextCloses [',', '>']) then parameterBounds

/-- An argument between angle brackets, and whether it is a lifetime. -/
def argumentOf : ReaderOf scope CodeToken Bool := do
  let isLifetime := (← nextIsLifetime) && !(← later 2 (nextIs "+"))
  if isLifetime then lifetime
  else if ← nextIsConstant then constant
  else unlessFollowed (Inner.typeTokens true) (nextIsOneOf ["=", ":"]) binding
  return isLifetime

/-! ## Pointers and sequences -/

/-- A reference: an optional lifetime, an optional `mut` and a type. -/
def reference : Reader scope := do
  operator "&"
  readIf nextIsLifetime lifetime
  optionalWord "mut"
  Inner.typeTokens false

/-- A raw pointer. -/
def pointer : Reader scope := do
  operator "*"
  if ← nextIsWord "const" then word else keyword "mut"
  Inner.typeTokens false

/-- A slice, or an array with its length. -/
def sequence : Reader scope :=
  between .bracket do
    Inner.typeTokens true
    readIf (nextIs ";") do
      operator ";"
      Inner.expression true

/-! ## Functions -/

/-- Whether the name of an argument comes next; the first one may be `self`. -/
def nextIsArgumentName (isFirst : Bool) : Peek scope := do
  let isName := (← nextIsName) || (← nextIsWord "_") || (isFirst && (← nextIsWord "self"))
  return isName && (← later 1 (nextIs ":")) && !(← later 1 (nextIs "::"))

/-- The value that a method is called on and may change, which is kept as it stands. -/
def mutableSelf : Reader scope :=
  asItStandsIf do
    keyword "mut"
    keyword "self"
    if (← nextIs ":") && !(← nextIs "::") then
      operator ":"
      Inner.typeTokens true
    return true

/-- An argument of a function type, which may have a name. -/
def functionArgument (isFirst : Bool) : Reader scope := do
  if isFirst && (← nextIsWord "mut") && (← later 1 (nextIsWord "self")) then mutableSelf
  else
    readIf (nextIsArgumentName isFirst) do
      word
      operator ":"
    Inner.typeTokens true

/-- Whether the mark of further arguments comes next, which may have a name. -/
def nextIsFurther : Peek scope := do
  let isNamed := ((← nextIsName) || (← nextIsWord "_")) && (← later 1 (nextIs ":"))
  return (← nextIs "...") || (isNamed && (← later 2 (nextIs "...")))

/-- The arguments of a function type. Only the last may stand for further ones. -/
def functionArguments : Reader .inGroup := do
  let _ ← iterate (fun isFirst => do
    if ← nextIsEnd then return .done false
    let _ ← attributes
    if ← nextIsFurther then
      if !(← nextIs "...") then
        word
        operator ":"
      operator "..."
      readIf (nextIs ",") (operator ",")
      return .done false
    functionArgument isFirst
    if ← nextIsEnd then return .done false
    operator ","
    return .yield false) true

/-- Whether a text comes next, such as the name of a calling convention. -/
def nextIsText : Peek scope :=
  nextSatisfies fun
    | .literal text => text.startsWith "\"" || text.startsWith "r"
    | _ => false

/-- A function type. -/
def function : Reader scope := do
  optionalWord "unsafe"
  readIf (nextIsWord "extern") do
    word
    readIf nextIsText literal
  keyword "fn"
  between .parenthesis functionArguments
  result

/-! ## Paths and trait objects -/

/-- A type that begins with a path: the path, a macro call, or the bounds of a trait object. -/
def pathType (allowsPlus : Bool) : ReaderOf scope CodeToken TypeShape := do
  let found ← path false
  if ← nextIsCall found then
    macroCall
    return .call
  else if allowsPlus && (← nextIs "+") then
    let _ ← moreBounds .object true
    return .other
  else return .bound

/-- What a reader writes, as one piece. -/
def piece {α : Type} (reader : ReaderOf scope CodeToken α) :
    ReaderOf scope (List CodeToken) α :=
  mapWritten (fun _ tokens => [tokens]) reader

/-- A type after the parameters that it introduces. They make a path a trait object, and are lost
before a macro call. -/
def introducing (allowsPlus : Bool) : ReaderOf scope CodeToken TypeShape :=
  mapWritten
    (fun shape pieces => (if shape = .call then pieces.drop 1 else pieces).flatten) do
      piece introduced
      piece do
        if ← nextIsWordOf ["fn", "unsafe", "extern"] then
          function
          return .other
        else if (← nextIsPath) && !(← nextIs "::") then pathType allowsPlus
        else refuse

/-- Bounds that follow a bound in parentheses, each after a `+`, if there are any. -/
def furtherBounds : ReaderOf scope CodeToken Bool :=
  readAll (nextIs "+") do
    operator "+"
    let _ ← bound .object

/-- What stands between the parentheses of a type: nothing, a type, or the items of a tuple. A
lifetime at the front belongs to the bounds of the only type. -/
def parenthesizedTypes : ReaderOf .inGroup CodeToken TypeShape := do
  if ← nextIsEnd then return .other
  else if ← nextIsLifetime then
    traitBounds .object true
    return .other
  else
    let shape ← Inner.type true
    if ← nextIs "," then
      operator ","
      items (Inner.typeTokens true)
      return .other
    else return shape

/-- A bound in parentheses that stands in parentheses again, without the inner ones. -/
def withoutInnerParens : List CodeToken → List CodeToken
  | outer :: .opening .parenthesis :: tokens => outer :: tokens.dropLast
  | tokens => tokens

/-- A type in parentheses, a tuple, or bounds that begin with a parenthesis. -/
def parenthesized (allowsPlus : Bool) : ReaderOf scope CodeToken TypeShape := do
  if ← later 1 (nextIs "?") then
    between .parenthesis (traitBound .object)
    return if ← furtherBounds then .other else .bound
  else
    let _ ← mapWritten
      (fun hasMore pieces =>
        ((if hasMore then pieces.modifyHead withoutInnerParens else pieces).flatten)) do
          let shape ← piece (between .parenthesis parenthesizedTypes)
          if allowsPlus && shape = .bound then piece furtherBounds else return false
    return .other

/-- A trait object after `dyn`. One with a star is kept as it stands. -/
def traitObject (allowsPlus : Bool) : Reader scope :=
  asItStandsIf do
    keyword "dyn"
    let hasStar ← nextIs "*"
    if hasStar then operator "*"
    traitBounds .object allowsPlus
    return hasStar

/-! ## One level -/

/-- A type that is neither a path nor introduces parameters nor stands in parentheses. -/
def otherType (allowsPlus : Bool) : Reader scope := do
  if ← nextIsWordOf ["fn", "unsafe", "extern"] then function
  else if ← nextIs "<" then qualifiedPath false
  else if ← nextIsWord "dyn" then traitObject allowsPlus
  else if ← nextIsOpening .bracket then sequence
  else if ← nextIs "*" then pointer
  else if ← nextIs "&" then reference
  else if ← nextIs "!" then operator "!"
  else if ← nextIsWord "impl" then
    word
    traitBounds .anonymous allowsPlus
  else if ← nextIsWord "_" then word
  else if ← nextIsLifetime then traitBounds .object true
  else refuse

/-- One level of a type. -/
def typeOf (allowsPlus : Bool) : ReaderOf scope CodeToken TypeShape := do
  if ← nextIsWord "for" then introducing allowsPlus
  else if ← nextIsOpening .parenthesis then parenthesized allowsPlus
  else if ← nextIsPath then pathType allowsPlus
  else
    otherType allowsPlus
    return .other

end SqlSchema.CodeGrammar
