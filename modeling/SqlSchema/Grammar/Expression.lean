import SqlSchema.Grammar.DataType

/-!
Expressions of computed columns and defaults. Only an expression's first operand is read as a tree;
where operators follow it, the whole is one `unknown` node.

An expression holds expressions, so its readers call each other. Each of them returns the tokens
after its node together with the fact that they are fewer, which is why the recursion ends. The
readers for use elsewhere leave that fact to a lemma.
-/

namespace SqlSchema.Grammar

/-- Functions whose first argument is a data type. -/
def isTypeFirstFunction (function : String) : Bool :=
  Text.upperCaseIs function "CONVERT" || Text.upperCaseIs function "TRY_CONVERT"

/-- Functions that are written without parentheses. -/
def niladicFunctions : List String :=
  ["CURRENT_TIMESTAMP", "CURRENT_USER", "SESSION_USER", "SYSTEM_USER", "USER"]

/-- Further parts of a name, as far as each dot is followed by one. -/
def optionalParts : List Token → List String × List Token
  | dot :: part :: rest =>
    if dot.kind = .dot ∧ part.isName then
      let (parts, rest) := optionalParts rest
      (part.name :: parts, rest)
    else ([], dot :: part :: rest)
  | tokens => ([], tokens)

theorem length_optionalParts_le (tokens : List Token) :
    (optionalParts tokens).2.length ≤ tokens.length := by
  fun_induction optionalParts tokens <;> grind

/-- The value of a result together with the equation that says so. -/
def attach {α β : Type} : (result : Except β α) → Except β { value : α // result = .ok value }
  | .ok value => .ok ⟨value, rfl⟩
  | .error error => .error error

namespace Bounded

/-- What remains of `tokens` after at least one of them has been read. -/
abbrev Shorter (tokens : List Token) := { rest : List Token // rest.length < tokens.length }

/-- What remains after a first token. -/
def afterFirst (first : Token) (rest : List Token) : Shorter (first :: rest) :=
  ⟨rest, Nat.lt_add_one rest.length⟩

mutual

/-- An operand: a literal, a column, a call, a `CASE` or an expression in parentheses. -/
def operand (tokens : List Token) : Except Refusal (Node × Shorter tokens) :=
  match tokens with
  | [] => refuse .more []
  | token :: rest =>
    match token.kind.literal? with
    | some kind => .ok (.literal kind token.literalValue token.text, afterFirst token rest)
    | none =>
      let unknownTo (typeName : String) (after : Shorter (token :: rest)) :
          Node × Shorter (token :: rest) :=
        (.unknown typeName (Token.textTo (token :: rest) after.val), after)
      match token.kind with
      | .leftParen =>
        if nextIsWord "SELECT" rest then do
          let ⟨after, found⟩ ← attach (closeGroup 0 rest)
          have inRest := length_of_closeGroup found
          .ok (unknownTo "SubqueryExpression" ⟨after, Nat.lt_succ_of_lt inRest⟩)
        else do
          let (inner, ⟨after, shorter⟩) ← expression rest
          let ⟨after, found⟩ ← attach (expectRightParen after)
          have inRest := Nat.lt_trans (length_of_expectRightParen found) shorter
          .ok (inner, ⟨after, Nat.lt_succ_of_lt inRest⟩)
      | .variable => .ok (.unknown "VariableExpression" token.text, afterFirst token rest)
      | .operator =>
        if token.text = "-" ∨ token.text = "+" ∨ token.text = "~" then do
          let (_, ⟨after, shorter⟩) ← operand rest
          .ok (unknownTo "UnaryExpression" ⟨after, Nat.lt_succ_of_lt shorter⟩)
        else refuse .expression (token :: rest)
      | .word =>
        if token.isWord "NULL" then
          .ok (.literal .null token.text token.text, afterFirst token rest)
        else if token.isWord "CASE" then do
          let (subject, ⟨clausesStart, inRest⟩) ← subject rest
          let (clauses, ⟨clausesEnd, inClauses⟩) ← whenClauses clausesStart
          let (otherwise, ⟨caseEnd, inOtherwise⟩) ← otherwise clausesEnd
          let ⟨after, found⟩ ← attach (expectWord "END" caseEnd)
          have inCase := Nat.le_trans inOtherwise (Nat.le_trans inClauses inRest)
          have shorter := Nat.lt_of_lt_of_le (length_of_expectWord found) inCase
          .ok (.caseExpression subject clauses otherwise (Token.textTo (token :: rest) after),
            ⟨after, Nat.lt_succ_of_lt shorter⟩)
        else if token.isWord "NOT" then do
          let (_, ⟨after, shorter⟩) ← expression rest
          .ok (unknownTo "NotExpression" ⟨after, Nat.lt_succ_of_lt shorter⟩)
        else if token.isWordIn niladicFunctions && !nextIs .leftParen rest then
          .ok (.call token.text [] token.text, afterFirst token rest)
        else columnOrCall token rest
      | .quotedName => columnOrCall token rest
      | _ => refuse .expression (token :: rest)
termination_by 4 * tokens.length

/-- A column or a call whose name begins with `first`. -/
def columnOrCall (first : Token) (rest : List Token) :
    Except Refusal (Node × Shorter (first :: rest)) :=
  let parts := (optionalParts rest).1
  let after := (optionalParts rest).2
  have notLonger : after.length ≤ rest.length := length_optionalParts_le rest
  let unknownTo (typeName : String) (after : Shorter (first :: rest)) :
      Node × Shorter (first :: rest) :=
    (.unknown typeName (Token.textTo (first :: rest) after.val), after)
  if isCall : nextIs .leftParen after then
    if parts.isEmpty then
      if Text.upperCaseIs first.name "CAST" then do
        let ⟨after, found⟩ ← attach (skipGroup after)
        .ok (unknownTo "CastExpression" ⟨after, by grind⟩)
      else if nextIsWord "SELECT" after.tail then do
        let ⟨after, found⟩ ← attach (skipGroup after)
        .ok (unknownTo "SubqueryExpression" ⟨after, by grind⟩)
      else do
        let (arguments, ⟨after, shorter⟩) ←
          callArguments (isTypeFirstFunction first.name) after.tail
        let ⟨after, found⟩ ← attach (expectRightParen after)
        .ok (.call first.name arguments (Token.textTo (first :: rest) after), ⟨after, by grind⟩)
    else do
      let ⟨after, found⟩ ← attach (skipGroup after)
      .ok (unknownTo "UserDefinedFunctionCallExpression" ⟨after, by grind⟩)
  else
    let name := (first.name :: parts).getLast (List.cons_ne_nil first.name parts)
    .ok (.columnRef name (Token.textTo (first :: rest) after), ⟨after, by grind⟩)
termination_by 4 * rest.length + 3
decreasing_by
  have shorter := length_tail_of_nextIs isCall
  simp only [after] at shorter notLonger
  grind

/-- The arguments of a call up to its `)`. With `typeFirst` the first argument is a data type. -/
def callArguments (typeFirst : Bool) (tokens : List Token) :
    Except Refusal (List Node × { rest : List Token // rest.length ≤ tokens.length }) :=
  if nextIs .rightParen tokens then .ok ([], ⟨tokens, by grind⟩)
  else if typeFirst then do
    let ⟨(type, after), found⟩ ← attach (dataType tokens)
    if nextIs .comma after then
      let (arguments, ⟨after, shorter⟩) ← expressions after.tail
      .ok (.dataType type :: arguments, ⟨after, by grind⟩)
    else .ok ([.dataType type], ⟨after, by grind⟩)
  else do
    let (arguments, ⟨after, shorter⟩) ← expressions tokens
    .ok (arguments, ⟨after, by grind⟩)
termination_by 4 * tokens.length + 3
decreasing_by all_goals grind

/-- One or more expressions with commas between them. -/
def expressions (tokens : List Token) : Except Refusal (List Node × Shorter tokens) := do
  let (first, ⟨after, shorter⟩) ← expression tokens
  if nextIs .comma after then
    let (arguments, ⟨after, _⟩) ← expressions after.tail
    .ok (first :: arguments, ⟨after, by grind⟩)
  else .ok ([first], ⟨after, shorter⟩)
termination_by 4 * tokens.length + 2

/-- An operand, or an unknown node where operators follow it. -/
def expression (tokens : List Token) : Except Refusal (Node × Shorter tokens) := do
  let (node, ⟨after, shorter⟩) ← operand tokens
  match found : afterOperators? after with
  | none => .ok (node, ⟨after, shorter⟩)
  | some rest =>
    .ok (.unknown "BinaryExpression" (Token.textTo tokens rest), ⟨rest, by grind⟩)
termination_by 4 * tokens.length + 1

/-- The optional expression between `CASE` and its first `WHEN`. -/
def subject (tokens : List Token) :
    Except Refusal (Option Node × { rest : List Token // rest.length ≤ tokens.length }) :=
  if nextIsWord "WHEN" tokens || nextIsWord "END" tokens then .ok (none, ⟨tokens, by grind⟩)
  else do
    let (node, ⟨after, shorter⟩) ← expression tokens
    .ok (some node, ⟨after, by grind⟩)
termination_by 4 * tokens.length + 2

/-- The `WHEN` clauses of a `CASE`. -/
def whenClauses (tokens : List Token) :
    Except Refusal (List WhenClause × { rest : List Token // rest.length ≤ tokens.length }) :=
  match tokens with
  | [] => .ok ([], ⟨[], by grind⟩)
  | token :: rest =>
    if token.isWord "WHEN" then do
      let (condition, ⟨after, _⟩) ← expression rest
      let ⟨after, found⟩ ← attach (expectWord "THEN" after)
      let (result, ⟨after, _⟩) ← expression after
      let clause : WhenClause := .mk condition result (Token.textTo (token :: rest) after)
      let (clauses, ⟨after, _⟩) ← whenClauses after
      .ok (clause :: clauses, ⟨after, by grind⟩)
    else .ok ([], ⟨token :: rest, by grind⟩)
termination_by 4 * tokens.length
decreasing_by all_goals grind

/-- The optional `ELSE` of a `CASE`. -/
def otherwise (tokens : List Token) :
    Except Refusal (Option Node × { rest : List Token // rest.length ≤ tokens.length }) :=
  match tokens with
  | [] => .ok (none, ⟨[], by grind⟩)
  | token :: rest =>
    if token.isWord "ELSE" then do
      let (node, ⟨after, shorter⟩) ← expression rest
      .ok (some node, ⟨after, by grind⟩)
    else .ok (none, ⟨token :: rest, by grind⟩)
termination_by 4 * tokens.length

end

end Bounded

/-- An expression. -/
def expression (tokens : List Token) : Except Refusal (Node × List Token) :=
  (Bounded.expression tokens).map fun (node, rest) => (node, rest.val)

@[grind →] theorem length_of_expression {tokens rest : List Token} {node : Node}
    (found : expression tokens = .ok (node, rest)) : rest.length < tokens.length := by
  unfold expression at found
  cases bounded : Bounded.expression tokens with
  | error refusal => simp [bounded, Except.map] at found
  | ok result =>
    obtain ⟨_, shorter⟩ := result.2
    simp only [bounded, Except.map, Except.ok.injEq, Prod.mk.injEq] at found
    grind

end SqlSchema.Grammar
