import SqlSchema.Proofs.Reading

/-!
The readers of expressions without their bounds. Each of them satisfies the equation that its
definition shows, with the plain readers in place of those that return a bound.
-/

namespace SqlSchema.Grammar

/-- A value and the tokens after it, without the bound on these. -/
def unbound {α : Type} {bound : List Token → Prop} (result : α × { rest : List Token // bound rest }) :
    α × List Token :=
  (result.1, result.2.val)

/-- An operand. -/
def operand (tokens : List Token) : Except Refusal (Node × List Token) :=
  (Bounded.operand tokens).map unbound

/-- A column or a call whose name begins with `first`. -/
def columnOrCall (first : Token) (rest : List Token) : Except Refusal (Node × List Token) :=
  (Bounded.columnOrCall first rest).map unbound

/-- The arguments of a call up to its `)`. -/
def callArguments (typeFirst : Bool) (tokens : List Token) :
    Except Refusal (List Node × List Token) :=
  (Bounded.callArguments typeFirst tokens).map unbound

/-- One or more expressions with commas between them. -/
def expressions (tokens : List Token) : Except Refusal (List Node × List Token) :=
  (Bounded.expressions tokens).map unbound

/-- The optional expression between `CASE` and its first `WHEN`. -/
def subject (tokens : List Token) : Except Refusal (Option Node × List Token) :=
  (Bounded.subject tokens).map unbound

/-- The `WHEN` clauses of a `CASE`. -/
def whenClauses (tokens : List Token) : Except Refusal (List WhenClause × List Token) :=
  (Bounded.whenClauses tokens).map unbound

/-- The optional `ELSE` of a `CASE`. -/
def otherwise (tokens : List Token) : Except Refusal (Option Node × List Token) :=
  (Bounded.otherwise tokens).map unbound

/-! ## Progress -/

theorem unbound_spec {α : Type} {bound : List Token → Prop}
    {result : Except Refusal (α × { rest : List Token // bound rest })} {value : α}
    {rest : List Token} (found : result.map unbound = .ok (value, rest)) : bound rest := by
  obtain ⟨⟨_, after, holds⟩, _, equal⟩ := map_eq_ok.mp found
  cases equal
  exact holds

theorem length_of_operand {tokens rest : List Token} {node : Node}
    (found : operand tokens = .ok (node, rest)) : rest.length < tokens.length :=
  unbound_spec found

theorem length_of_callArguments {typeFirst : Bool} {tokens rest : List Token} {nodes : List Node}
    (found : callArguments typeFirst tokens = .ok (nodes, rest)) : rest.length ≤ tokens.length :=
  unbound_spec found

theorem length_of_expressions {tokens rest : List Token} {nodes : List Node}
    (found : expressions tokens = .ok (nodes, rest)) : rest.length < tokens.length :=
  unbound_spec found

theorem length_of_subject {tokens rest : List Token} {node : Option Node}
    (found : subject tokens = .ok (node, rest)) : rest.length ≤ tokens.length :=
  unbound_spec found

theorem length_of_whenClauses {tokens rest : List Token} {clauses : List WhenClause}
    (found : whenClauses tokens = .ok (clauses, rest)) : rest.length ≤ tokens.length :=
  unbound_spec found

theorem length_of_otherwise {tokens rest : List Token} {node : Option Node}
    (found : otherwise tokens = .ok (node, rest)) : rest.length ≤ tokens.length :=
  unbound_spec found

/-! ## Equations -/

theorem map_ite {α β ε : Type} (holds : Prop) [Decidable holds] (convert : α → β)
    (left right : Except ε α) :
    (if holds then left else right).map convert =
      if holds then left.map convert else right.map convert := by
  split <;> rfl

theorem map_bind {α β γ δ ε : Type} {result : Except ε α} {next : α → Except ε γ}
    {convert : α → β} {next' : β → Except ε δ} {finish : γ → δ}
    (same : ∀ value, (next value).map finish = next' (convert value)) :
    (result >>= next).map finish = result.map convert >>= next' := by
  cases result with
  | error error => rfl
  | ok value => exact same value

theorem map_attach_bind {α γ δ ε : Type} {result : Except ε α}
    {next : { value : α // result = .ok value } → Except ε γ} {next' : α → Except ε δ}
    {finish : γ → δ} (same : ∀ value found, (next ⟨value, found⟩).map finish = next' value) :
    (attach result >>= next).map finish = result >>= next' := by
  cases result with
  | error error => rfl
  | ok value => exact same value rfl

theorem expression_eq (tokens : List Token) :
    expression tokens = (do
      let (node, after) ← operand tokens
      match afterOperators? after with
      | none => .ok (node, after)
      | some rest => .ok (.unknown "BinaryExpression" (Token.textTo tokens rest), rest)) := by
  rw [expression, Bounded.expression]
  refine map_bind fun ⟨node, after, _⟩ => ?_
  dsimp only [unbound]
  split
  · rename_i found
    simp only [found]
    rfl
  · rename_i found
    simp only [found]
    rfl

theorem expressions_eq (tokens : List Token) :
    expressions tokens = (do
      let (first, after) ← expression tokens
      if nextIs .comma after then
        let (others, after) ← expressions after.tail
        .ok (first :: others, after)
      else .ok ([first], after)) := by
  rw [expressions, Bounded.expressions]
  refine map_bind fun ⟨first, after, _⟩ => (map_ite _ _ _ _).trans ?_
  dsimp only
  split
  · exact map_bind fun _ => rfl
  · rfl

theorem subject_eq (tokens : List Token) :
    subject tokens =
      if nextIsWord "WHEN" tokens || nextIsWord "END" tokens then .ok (none, tokens)
      else (do
        let (node, after) ← expression tokens
        .ok (some node, after)) := by
  rw [subject, Bounded.subject]
  refine (map_ite _ _ _ _).trans ?_
  split
  · rfl
  · exact map_bind fun _ => rfl

theorem otherwise_nil : otherwise [] = .ok (none, []) := by
  rw [otherwise, Bounded.otherwise]
  rfl

theorem otherwise_cons (token : Token) (rest : List Token) :
    otherwise (token :: rest) =
      if token.isWord "ELSE" then do
        let (node, after) ← expression rest
        .ok (some node, after)
      else .ok (none, token :: rest) := by
  rw [otherwise, Bounded.otherwise]
  refine (map_ite _ _ _ _).trans ?_
  split
  · exact map_bind fun _ => rfl
  · rfl

theorem whenClauses_nil : whenClauses [] = .ok ([], []) := by
  rw [whenClauses, Bounded.whenClauses]
  rfl

theorem whenClauses_cons (token : Token) (rest : List Token) :
    whenClauses (token :: rest) =
      if token.isWord "WHEN" then do
        let (condition, after) ← expression rest
        let after ← expectWord "THEN" after
        let (value, after) ← expression after
        let clause : WhenClause := .mk condition value (Token.textTo (token :: rest) after)
        let (clauses, after) ← whenClauses after
        .ok (clause :: clauses, after)
      else .ok ([], token :: rest) := by
  rw [whenClauses, Bounded.whenClauses]
  refine (map_ite _ _ _ _).trans ?_
  split
  · refine map_bind fun _ => map_attach_bind fun _ _ => map_bind fun _ => ?_
    exact map_bind fun _ => rfl
  · rfl

theorem callArguments_eq (typeFirst : Bool) (tokens : List Token) :
    callArguments typeFirst tokens =
      if nextIs .rightParen tokens then .ok ([], tokens)
      else if typeFirst then do
        let (type, after) ← dataType tokens
        if nextIs .comma after then
          let (arguments, after) ← expressions after.tail
          .ok (.dataType type :: arguments, after)
        else .ok ([.dataType type], after)
      else expressions tokens := by
  rw [callArguments, Bounded.callArguments]
  refine (map_ite _ _ _ _).trans ?_
  split
  · rfl
  refine (map_ite _ _ _ _).trans ?_
  split
  · refine map_attach_bind fun ⟨type, after⟩ _ => (map_ite _ _ _ _).trans ?_
    dsimp only
    split
    · exact map_bind fun _ => rfl
    · rfl
  · rw [expressions]
    cases Bounded.expressions tokens <;> rfl

theorem columnOrCall_eq (first : Token) (rest : List Token) :
    columnOrCall first rest =
      let (parts, after) := optionalParts rest
      if nextIs .leftParen after then
        if parts.isEmpty then
          if Text.upperCaseIs first.name "CAST" then do
            let after ← skipGroup after
            .ok (.unknown "CastExpression" (Token.textTo (first :: rest) after), after)
          else if nextIsWord "SELECT" after.tail then do
            let after ← skipGroup after
            .ok (.unknown "SubqueryExpression" (Token.textTo (first :: rest) after), after)
          else do
            let (arguments, after) ←
              callArguments (isTypeFirstFunction first.name) after.tail
            let after ← expectRightParen after
            .ok (.call first.name arguments (Token.textTo (first :: rest) after), after)
        else do
          let after ← skipGroup after
          .ok (.unknown "UserDefinedFunctionCallExpression"
            (Token.textTo (first :: rest) after), after)
      else
        let name := (first.name :: parts).getLast (List.cons_ne_nil first.name parts)
        .ok (.columnRef name (Token.textTo (first :: rest) after), after) := by
  rw [columnOrCall, Bounded.columnOrCall]
  dsimp only
  split
  · refine (map_ite _ _ _ _).trans ?_
    split
    · refine (map_ite _ _ _ _).trans ?_
      split
      · exact map_attach_bind fun _ _ => rfl
      refine (map_ite _ _ _ _).trans ?_
      split
      · exact map_attach_bind fun _ _ => rfl
      · refine map_bind fun _ => ?_
        exact map_attach_bind fun _ _ => rfl
    · exact map_attach_bind fun _ _ => rfl
  · rfl

theorem operand_nil : operand [] = refuse .more [] := by
  rw [operand, Bounded.operand]
  rfl

/-- An operand in parentheses that `first` opens: a subquery or an expression. -/
def parenthesized (first : Token) (rest : List Token) : Except Refusal (Node × List Token) :=
  if nextIsWord "SELECT" rest then do
    let after ← closeGroup 0 rest
    .ok (.unknown "SubqueryExpression" (Token.textTo (first :: rest) after), after)
  else do
    let (inner, after) ← expression rest
    let after ← expectRightParen after
    .ok (inner, after)

/-- The `CASE` that `first` begins. -/
def caseOf (first : Token) (rest : List Token) : Except Refusal (Node × List Token) := do
  let (subject, after) ← subject rest
  let (clauses, after) ← whenClauses after
  let (otherwise, after) ← otherwise after
  let after ← expectWord "END" after
  .ok (.caseExpression subject clauses otherwise (Token.textTo (first :: rest) after), after)

theorem operand_cons (token : Token) (rest : List Token) :
    operand (token :: rest) =
      match token.kind.literal? with
      | some kind => .ok (.literal kind token.literalValue token.text, rest)
      | none =>
        match token.kind with
        | .leftParen => parenthesized token rest
        | .variable => .ok (.unknown "VariableExpression" token.text, rest)
        | .operator =>
          if token.text = "-" ∨ token.text = "+" ∨ token.text = "~" then do
            let (_, after) ← operand rest
            .ok (.unknown "UnaryExpression" (Token.textTo (token :: rest) after), after)
          else refuse .expression (token :: rest)
        | .word =>
          if token.isWord "NULL" then .ok (.literal .null token.text token.text, rest)
          else if token.isWord "CASE" then caseOf token rest
          else if token.isWord "NOT" then do
            let (_, after) ← expression rest
            .ok (.unknown "NotExpression" (Token.textTo (token :: rest) after), after)
          else if token.isWordIn niladicFunctions && !nextIs .leftParen rest then
            .ok (.call token.text [] token.text, rest)
          else columnOrCall token rest
        | .quotedName => columnOrCall token rest
        | _ => refuse .expression (token :: rest) := by
  rw [operand, Bounded.operand]
  dsimp only
  cases token.kind.literal? with
  | some kind => rfl
  | none =>
    dsimp only
    cases token.kind
    case leftParen =>
      dsimp only
      unfold parenthesized
      refine (map_ite _ _ _ _).trans ?_
      split
      · exact map_attach_bind fun _ _ => rfl
      · refine map_bind fun _ => ?_
        exact map_attach_bind fun _ _ => rfl
    case operator =>
      refine (map_ite _ _ _ _).trans ?_
      split
      · exact map_bind fun _ => rfl
      · rfl
    case word =>
      refine (map_ite _ _ _ _).trans ?_
      split
      · rfl
      refine (map_ite _ _ _ _).trans ?_
      split
      · refine map_bind fun _ => map_bind fun _ => map_bind fun _ => ?_
        exact map_attach_bind fun _ _ => rfl
      refine (map_ite _ _ _ _).trans ?_
      split
      · exact map_bind fun _ => rfl
      refine (map_ite _ _ _ _).trans ?_
      split
      · rfl
      · rfl
    all_goals rfl

end SqlSchema.Grammar
