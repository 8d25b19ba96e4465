import SqlSchema.Proofs.Suffix

/-!
The loops of the grammar. Every reader that repeats itself or holds itself is one of a list of
loops, and one turn of a loop is a function of what the turns after it yield. Each turn looks only at
turns that begin at a later token.
-/

namespace SqlSchema.Grammar

/-- The loops and recursions of the grammar, with what they carry from one turn to the next. -/
inductive Loop where
  | statements (defaultSchema : String)
  | skipStatement (depth : Nat)
  | skipModule
  | tableName
  | tableElements
  | tableOptions
  | columnOptions
  | skipElement (depth : Nat)
  | skipUnknownOption (depth : Nat)
  | indexedColumns
  | indexOptions
  | referenceOptions
  | dottedParts
  | typeArguments
  | closeGroup (depth : Nat)
  | expression
  | operand
  | optionalParts
  | expressions
  | whenClauses
  | skipChain (depth : Nat) (before : Token)

namespace Loop

/-- What a loop yields. -/
abbrev Result : Loop → Type
  | statements _ => Except Refusal (List Statement)
  | skipStatement _ | skipModule | skipChain _ _ => List Token
  | skipElement _ | skipUnknownOption _ | closeGroup _ => Except Refusal (List Token)
  | tableName | dottedParts => Except Refusal (List String × List Token)
  | optionalParts => List String × List Token
  | typeArguments => Option (List (Option UInt32) × List Token)
  | tableOptions | referenceOptions => Except Refusal (List Unit × List Token)
  | tableElements | columnOptions | indexedColumns | indexOptions | expressions =>
    Except Refusal (List Node × List Token)
  | expression | operand => Except Refusal (Node × List Token)
  | whenClauses => Except Refusal (List WhenClause × List Token)

/-- A reader for each loop. -/
abbrev Readers := (loop : Loop) → List Token → loop.Result

/-- The readers of the grammar. -/
def read : Readers
  | statements defaultSchema => Grammar.statements defaultSchema
  | skipStatement depth => Grammar.skipStatement depth
  | skipModule => List.dropWhile (!·.endsBatch)
  | tableName => Grammar.tableNameParts
  | tableElements => Grammar.tableElements
  | tableOptions => many tableOption? progresses_tableOption?
  | columnOptions => Grammar.columnOptions
  | skipElement depth => Grammar.skipElement depth
  | skipUnknownOption depth => Grammar.skipUnknownOption depth
  | indexedColumns => Grammar.indexedColumns
  | indexOptions => Grammar.indexOptions
  | referenceOptions => many referenceOption? progresses_referenceOption?
  | dottedParts => Grammar.dottedParts
  | typeArguments => typeArgumentList?
  | closeGroup depth => Grammar.closeGroup depth
  | expression => Grammar.expression
  | operand => Grammar.operand
  | optionalParts => Grammar.optionalParts
  | expressions => Grammar.expressions
  | whenClauses => Grammar.whenClauses
  | skipChain depth before => Grammar.skipChain depth before

/-- The tokens that a loop leaves, if it ends well. The statements leave none. -/
def rest? : (loop : Loop) → loop.Result → Option (List Token)
  | statements _, result => result.toOption.map fun _ => []
  | skipStatement _, rest | skipModule, rest | skipChain _ _, rest => some rest
  | skipElement _, result | skipUnknownOption _, result | closeGroup _, result => result.toOption
  | optionalParts, result => some result.2
  | typeArguments, result => result.map Prod.snd
  | tableName, result | dottedParts, result => result.toOption.map Prod.snd
  | tableOptions, result | referenceOptions, result => result.toOption.map Prod.snd
  | tableElements, result | columnOptions, result | indexedColumns, result
  | indexOptions, result | expressions, result => result.toOption.map Prod.snd
  | expression, result | operand, result => result.toOption.map Prod.snd
  | whenClauses, result => result.toOption.map Prod.snd

/-! ## Turns

A turn is given the readers for the turns after it. -/

section

variable (further : Readers)

/-- One item of a repetition, before the others. -/
def itemTurn {α : Type} (step : Step α)
    (others : List Token → Except Refusal (List α × List Token)) (tokens : List Token) :
    Except Refusal (List α × List Token) := do
  match ← step tokens with
  | none => .ok ([], tokens)
  | some (value, rest) => (others rest).map fun (values, rest) => (value :: values, rest)

/-- One statement, before the others. -/
def statementTurn (defaultSchema : String) : List Token → Except Refusal (List Statement)
  | [] => .ok []
  | token :: rest =>
    if token.kind = .semicolon then further (statements defaultSchema) rest
    else if token.endsBatch then further (statements defaultSchema) (dropBatchCount rest)
    else if nextAreWords ["CREATE", "TABLE"] (token :: rest) then do
      let (statement, rest) ← createTable defaultSchema (token :: rest)
      (further (statements defaultSchema) rest).map (.createTable statement :: ·)
    else
      let after := afterStatement token rest
      (further (statements defaultSchema) after).map
        (.other (Token.textTo (token :: rest) after) :: ·)

/-- One token of a statement that is passed over. -/
def skipStatementTurn (depth : Nat) : List Token → List Token
  | [] => []
  | token :: rest =>
    if depth = 0 && (token.kind == .semicolon || token.endsBatch || token.isWord "CREATE") then
      token :: rest
    else
      match token.kind with
      | .leftParen => further (skipStatement (depth + 1)) rest
      | .rightParen => further (skipStatement (depth - 1)) rest
      | _ => further (skipStatement depth) rest

/-- One token of a module. -/
def skipModuleTurn : List Token → List Token
  | [] => []
  | token :: rest => if token.endsBatch then token :: rest else further skipModule rest

/-- One further part of the name of a table. -/
def tableNameTurn : List Token → Except Refusal (List String × List Token)
  | [] => .ok ([], [])
  | dot :: rest =>
    if dot.kind = .dot then
      match rest with
      | [] => refuse .name []
      | part :: tail =>
        if part.kind = .dot then do
          let (parts, rest) ← further tableName (part :: tail)
          .ok ("" :: parts, rest)
        else if part.isName then do
          let (parts, rest) ← further tableName tail
          .ok (part.name :: parts, rest)
        else refuse .name (part :: tail)
    else .ok ([], dot :: rest)

/-- One element of a table. -/
def elementTurn (tokens : List Token) : Except Refusal (List Node × List Token) := do
  let (nodes, rest) ← tableElement tokens
  if nextIs .comma rest then
    if nextIs .rightParen rest.tail then .ok (nodes, rest.tail)
    else
      let (others, rest) ← further tableElements rest.tail
      .ok (nodes ++ others, rest)
  else .ok (nodes, rest)

/-- One token of an element that is passed over. -/
def skipElementTurn (depth : Nat) : List Token → Except Refusal (List Token)
  | [] => if depth = 0 then .ok [] else refuse .more []
  | token :: rest =>
    match token.kind, depth with
    | .comma, 0 => .ok (token :: rest)
    | .rightParen, 0 => .ok (token :: rest)
    | .leftParen, depth => further (skipElement (depth + 1)) rest
    | .rightParen, depth + 1 => further (skipElement depth) rest
    | _, depth => further (skipElement depth) rest

/-- One token of an option of a column that no rule knows. -/
def skipUnknownOptionTurn (depth : Nat) : List Token → Except Refusal (List Token)
  | [] => if depth = 0 then .ok [] else refuse .more []
  | token :: rest =>
    if depth = 0 && (atElementEnd (token :: rest) || atColumnOption (token :: rest)) then
      .ok (token :: rest)
    else
      match token.kind with
      | .leftParen => further (skipUnknownOption (depth + 1)) rest
      | .rightParen => further (skipUnknownOption (depth - 1)) rest
      | _ => further (skipUnknownOption depth) rest

/-- One column of a key. -/
def indexedColumnTurn (tokens : List Token) : Except Refusal (List Node × List Token) := do
  let (column, rest) ← name tokens
  let after := dropDirection rest
  let node : Node := .indexedColumn column (Token.textTo tokens after)
  if nextIs .comma after then
    let (nodes, rest) ← further indexedColumns after.tail
    .ok (node :: nodes, rest)
  else
    let rest ← expectRightParen after
    .ok ([node], rest)

/-- One further part of the name of a type. -/
def dottedPartTurn : List Token → Except Refusal (List String × List Token)
  | [] => .ok ([], [])
  | dot :: rest =>
    if dot.kind = .dot then
      match rest with
      | [] => refuse .name []
      | part :: rest =>
        if part.isName then do
          let (parts, rest) ← further dottedParts rest
          .ok (part.name :: parts, rest)
        else refuse .name (part :: rest)
    else .ok ([], dot :: rest)

/-- One argument of a type. -/
def typeArgumentTurn : List Token → Option (List (Option UInt32) × List Token)
  | token :: separator :: rest =>
    match typeArgument? token with
    | none => none
    | some argument =>
      if separator.kind = .comma then
        (further typeArguments rest).map fun (arguments, rest) => (argument :: arguments, rest)
      else if separator.kind = .rightParen then some ([argument], rest)
      else none
  | _ => none

/-- One token of a group. -/
def closeGroupTurn (depth : Nat) : List Token → Except Refusal (List Token)
  | [] => refuse .more []
  | token :: rest =>
    match token.kind, depth with
    | .leftParen, depth => further (closeGroup (depth + 1)) rest
    | .rightParen, 0 => .ok rest
    | .rightParen, depth + 1 => further (closeGroup depth) rest
    | _, depth => further (closeGroup depth) rest

/-- One further part of the name of a column or a function. -/
def optionalPartTurn : List Token → List String × List Token
  | dot :: part :: rest =>
    if dot.kind = .dot ∧ part.isName then
      (part.name :: (further optionalParts rest).1, (further optionalParts rest).2)
    else ([], dot :: part :: rest)
  | tokens => ([], tokens)

/-- One token of an operator chain. -/
def skipChainTurn (depth : Nat) (before : Token) : List Token → List Token
  | [] => []
  | token :: rest =>
    if depth = 0 && chainEndsAt before token rest then token :: rest
    else further (skipChain (chainDepth depth token) token) rest

/-- The arguments of a call. -/
def callArgumentsTurn (typeFirst : Bool) (tokens : List Token) :
    Except Refusal (List Node × List Token) :=
  if nextIs .rightParen tokens then .ok ([], tokens)
  else if typeFirst then do
    let (type, after) ← dataType tokens
    if nextIs .comma after then
      let (arguments, after) ← further expressions after.tail
      .ok (.dataType type :: arguments, after)
    else .ok ([.dataType type], after)
  else further expressions tokens

/-- A column or a call. -/
def columnOrCallTurn (first : Token) (rest : List Token) : Except Refusal (Node × List Token) :=
  let (parts, after) := Grammar.optionalParts rest
  if nextIs .leftParen after then
    if parts.isEmpty then
      if Text.upperCaseIs first.name "CAST" then do
        let after ← skipGroup after
        .ok (.unknown "CastExpression" (Token.textTo (first :: rest) after), after)
      else if nextIsWord "SELECT" after.tail then do
        let after ← skipGroup after
        .ok (.unknown "SubqueryExpression" (Token.textTo (first :: rest) after), after)
      else do
        let (arguments, after) ←
          callArgumentsTurn further (isTypeFirstFunction first.name) after.tail
        let after ← expectRightParen after
        .ok (.call first.name arguments (Token.textTo (first :: rest) after), after)
    else do
      let after ← skipGroup after
      .ok (.unknown "UserDefinedFunctionCallExpression" (Token.textTo (first :: rest) after), after)
  else .ok (.columnRef (parts.getLastD first.name) (Token.textTo (first :: rest) after), after)

/-- What stands between `CASE` and its first `WHEN`. -/
def subjectTurn (tokens : List Token) : Except Refusal (Option Node × List Token) :=
  if nextIsWord "WHEN" tokens || nextIsWord "END" tokens then .ok (none, tokens)
  else do
    let (node, after) ← further expression tokens
    .ok (some node, after)

/-- One clause of a `CASE`, before the others. -/
def whenClauseTurn : List Token → Except Refusal (List WhenClause × List Token)
  | [] => .ok ([], [])
  | token :: rest =>
    if token.isWord "WHEN" then do
      let (condition, after) ← further expression rest
      let after ← expectWord "THEN" after
      let (value, after) ← further expression after
      let clause : WhenClause := .mk condition value (Token.textTo (token :: rest) after)
      let (clauses, after) ← further whenClauses after
      .ok (clause :: clauses, after)
    else .ok ([], token :: rest)

/-- What stands after the clauses of a `CASE`. -/
def otherwiseTurn : List Token → Except Refusal (Option Node × List Token)
  | [] => .ok (none, [])
  | token :: rest =>
    if token.isWord "ELSE" then do
      let (node, after) ← further expression rest
      .ok (some node, after)
    else .ok (none, token :: rest)

/-- An operand. It holds expressions, a further operand after a sign, and clauses. -/
def operandTurn : List Token → Except Refusal (Node × List Token)
  | [] => refuse .more []
  | token :: rest =>
    match token.kind.literal? with
    | some kind => .ok (.literal kind token.literalValue token.text, rest)
    | none =>
      match token.kind with
      | .leftParen =>
        if nextIsWord "SELECT" rest then do
          let after ← Grammar.closeGroup 0 rest
          .ok (.unknown "SubqueryExpression" (Token.textTo (token :: rest) after), after)
        else do
          let (inner, after) ← further expression rest
          let after ← expectRightParen after
          .ok (inner, after)
      | .variable => .ok (.unknown "VariableExpression" token.text, rest)
      | .operator =>
        if token.text = "-" ∨ token.text = "+" ∨ token.text = "~" then do
          let (_, after) ← further operand rest
          .ok (.unknown "UnaryExpression" (Token.textTo (token :: rest) after), after)
        else refuse .expression (token :: rest)
      | .word =>
        if token.isWord "NULL" then .ok (.literal .null token.text token.text, rest)
        else if token.isWord "CASE" then do
          let (subject, after) ← subjectTurn further rest
          let (clauses, after) ← further whenClauses after
          let (otherwise, after) ← otherwiseTurn further after
          let after ← expectWord "END" after
          .ok (.caseExpression subject clauses otherwise
            (Token.textTo (token :: rest) after), after)
        else if token.isWord "NOT" then do
          let (_, after) ← further expression rest
          .ok (.unknown "NotExpression" (Token.textTo (token :: rest) after), after)
        else if token.isWordIn niladicFunctions && !nextIs .leftParen rest then
          .ok (.call token.text [] token.text, rest)
        else columnOrCallTurn further token rest
      | .quotedName => columnOrCallTurn further token rest
      | _ => refuse .expression (token :: rest)

/-- An operand and the operators after it. -/
def expressionTurn (tokens : List Token) : Except Refusal (Node × List Token) := do
  let (node, after) ← operandTurn further tokens
  match afterOperators? after with
  | none => .ok (node, after)
  | some rest => .ok (.unknown "BinaryExpression" (Token.textTo tokens rest), rest)

/-- One expression of a list, before the others. -/
def expressionsTurn (tokens : List Token) : Except Refusal (List Node × List Token) := do
  let (first, after) ← expressionTurn further tokens
  if nextIs .comma after then
    let (others, after) ← further expressions after.tail
    .ok (first :: others, after)
  else .ok ([first], after)

/-- One turn of a loop. -/
def turn : Readers
  | statements defaultSchema => statementTurn further defaultSchema
  | skipStatement depth => skipStatementTurn further depth
  | skipModule => skipModuleTurn further
  | tableName => tableNameTurn further
  | tableElements => elementTurn further
  | tableOptions => itemTurn tableOption? (further tableOptions)
  | columnOptions => itemTurn columnOption? (further columnOptions)
  | skipElement depth => skipElementTurn further depth
  | skipUnknownOption depth => skipUnknownOptionTurn further depth
  | indexedColumns => indexedColumnTurn further
  | indexOptions => itemTurn indexOption? (further indexOptions)
  | referenceOptions => itemTurn referenceOption? (further referenceOptions)
  | dottedParts => dottedPartTurn further
  | typeArguments => typeArgumentTurn further
  | closeGroup depth => closeGroupTurn further depth
  | expression => expressionTurn further
  | operand => operandTurn further
  | optionalParts => optionalPartTurn further
  | expressions => expressionsTurn further
  | whenClauses => whenClauseTurn further
  | skipChain depth before => skipChainTurn further depth before

end

/-- Turns up to a number, from readers for what is cut off there. -/
def unroll (cutOff : Readers) : Nat → Readers
  | 0 => cutOff
  | turns + 1 => turn (unroll cutOff turns)

end Loop

end SqlSchema.Grammar
