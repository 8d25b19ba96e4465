import SqlSchema.Code.Grammar.Pattern

/-!
Operators between the operands of an expression: how strongly they bind, and which of them go on
after an operand.
-/

namespace SqlSchema.CodeGrammar

/-! ## Places where expressions begin and end -/

/-- Whether an expression can begin here. -/
def nextIsExpression : Peek .inGroup := do
  let isWord := (← nextIsAnyWord) && !(← nextIsWord "as")
  let isOperand := isWord || (← nextIsLifetime) || (← nextIsLiteral)
  let isGroup := (← nextIsOpening .parenthesis) || (← nextIsOpening .bracket)
    || (← nextIsOpening .brace)
  let isSign := (← nextIsOneOf ["!", "-", "*", "|", "&", "..", "<", "::", "#"])
    && !(← nextIsOneOf ["!=", "-=", "->", "*=", "|=", "&=", "<=", "<<="])
  return isOperand || isGroup || isSign

/-- Whether the point before a member comes next. -/
def nextIsPoint : Peek .inGroup := do
  return (← nextIs ".") && !(← nextIs "..")

/-! ## Operators -/

/-- How strongly operators bind: assignments least, casts most. -/
inductive Binding where
  | none
  | assignment
  | range
  | or
  | and
  | comparison
  | bitOr
  | bitXor
  | bitAnd
  | shift
  | sum
  | product
  | cast
  deriving DecidableEq, Repr

namespace Binding

/-- The place of a binding among all of them. -/
def strength : Binding → Nat
  | none => 0
  | assignment => 1
  | range => 2
  | or => 3
  | and => 4
  | comparison => 5
  | bitOr => 6
  | bitXor => 7
  | bitAnd => 8
  | shift => 9
  | sum => 10
  | product => 11
  | cast => 12

end Binding

/-- The operators between two operands. A longer one comes before those that it begins with. -/
def binaryOperators : List (String × Binding) :=
  [("+=", .assignment), ("-=", .assignment), ("*=", .assignment), ("/=", .assignment),
    ("%=", .assignment), ("^=", .assignment), ("&=", .assignment), ("|=", .assignment),
    ("<<=", .assignment), (">>=", .assignment), ("&&", .and), ("||", .or), ("<<", .shift),
    (">>", .shift), ("==", .comparison), ("<=", .comparison), ("!=", .comparison),
    (">=", .comparison), ("+", .sum), ("-", .sum), ("*", .product), ("/", .product),
    ("%", .product), ("^", .bitXor), ("&", .bitAnd), ("|", .bitOr), ("<", .comparison),
    (">", .comparison)]

/-- The binary operator that comes next. -/
def nextBinary : ReaderOf .inGroup CodeToken (Option (String × Binding)) :=
  lookInGroup fun tokens => binaryOperators.find? fun (text, _) => startsWith text.toList tokens

/-- Whether an assignment comes next, and not the arrow of a case. -/
def nextIsAssignment : Peek .inGroup := do
  return (← nextIs "=") && !(← nextIsOneOfInGroup ["=>"])

/-- How strongly what comes next binds. -/
def nextBinding : ReaderOf .inGroup CodeToken Binding := do
  match ← nextBinary with
  | some (_, binding) => return binding
  | none =>
    if ← nextIsAssignment then return .assignment
    else if ← nextIs ".." then return .range
    else if ← nextIsWord "as" then return .cast
    else return .none

/-- Whether a range has no end: something follows that no operand begins with. -/
def nextIsOpenEnd (allowsStruct : Bool) : Peek .inGroup := do
  let isBrace := !allowsStruct && (← nextIsOpening .brace)
  let isOperator ← nextIsOneOfInGroup
    [",", ";", "?", "=>", "=", "+", "/", "%", "^", ">", "<=", "!=", "-=", "*=", "&=", "|=", "<<="]
  return (← nextIsEnd) || (← nextIsPoint) || (← nextIsWord "as") || isBrace || isOperator

/-- Whether a cast is followed by what may only follow an operand. -/
def nextIsSuffix : Peek .inGroup := do
  return (← nextIsPoint) || (← nextIs "?") || (← nextIsOpening .bracket)
    || (← nextIsOpening .parenthesis)

/-- A reader of one operand. -/
abbrev Operand := ReaderOf .inGroup CodeToken ExpressionShape

mutual

/-- An expression that begins with an operand, continued by operators that bind at least as strongly
as `least`. Comparisons have no order among themselves, and a range is no operand. -/
def continued (allowsStruct : Bool) (operand : Operand) :
    Nat → Binding → ExpressionShape → Operand
  | 0, _, _ => refuse
  | count + 1, least, left => do
    let goOn := continued allowsStruct operand count least
    let right (binding : Binding) : Reader .inGroup := do
      let _ ← rightOf allowsStruct operand count binding (← operand)
    if left = .range then return left
    else
      match ← nextBinary with
      | some (text, binding) =>
        if binding.strength < least.strength then return left
        else if binding = .comparison && left = .comparison then refuse
        else
          operatorInGroup text
          right binding
          goOn (if binding = .comparison then .comparison else .other)
      | none =>
        let next ← nextBinding
        if next = .none || next.strength < least.strength then return left
        else if next = .assignment then
          operator "="
          right .assignment
          goOn .other
        else if next = .range then
          let leavesOut ← rangeDots
          if !(leavesOut && (← nextIsOpenEnd allowsStruct)) then right .range
          goOn .range
        else
          keyword "as"
          Inner.typeTokens false
          if ← nextIsSuffix then refuse
          else goOn .other

/-- The right side of an operator that begins with an operand: it takes the operators that bind more
strongly, and an assignment takes assignments as well. -/
def rightOf (allowsStruct : Bool) (operand : Operand) :
    Nat → Binding → ExpressionShape → Operand
  | 0, _, _ => refuse
  | count + 1, binding, found => do
    let next ← nextBinding
    let takes := binding.strength < next.strength || (next = binding && binding = .assignment)
    if takes then
      let before ← lookInGroup List.length
      let longer ← continued allowsStruct operand count next found
      if (← lookInGroup List.length) = before then return longer
      else rightOf allowsStruct operand count binding longer
    else return found

end

/-- A bound on the steps of `continued`: every second one takes a token. -/
def stepsLeft : ReaderOf .inGroup CodeToken Nat :=
  lookInGroup fun tokens => 2 * tokens.length + 4

end SqlSchema.CodeGrammar
