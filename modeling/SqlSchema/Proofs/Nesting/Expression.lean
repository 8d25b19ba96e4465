import SqlSchema.Proofs.Nesting.Basic

/-!
Nested texts of expressions. An operand in parentheses quotes less than has been read for it, so
what is said of a reader is that its node quotes a run within the tokens read.
-/

namespace SqlSchema

theorem Token.textTo_cons_self (token : Token) (rest : List Token) :
    textTo (token :: rest) rest = token.text := by
  have single : run (token :: rest) rest = [token] := run_append [token] rest
  rw [textTo, single, textOf]
  exact String.append_empty

namespace Grammar

/-- Whether the node quotes tokens between `tokens` and `rest`. -/
abbrev NodeIn (node : Node) (tokens rest : List Token) : Prop :=
  Nested [.node node] tokens rest

/-- Whether the nodes quote tokens between `tokens` and `rest`, one after the other. -/
abbrev NodesIn (nodes : List Node) (tokens rest : List Token) : Prop :=
  Nested (nodes.map .node) tokens rest

theorem nodeIn_dataType {tokens rest : List Token} {type : DataType}
    (found : dataType tokens = .ok (type, rest)) : NodeIn (.dataType type) tokens rest := by
  have isSuffix := isSuffix_of_dataType found
  have shorter := length_of_dataType found
  rcases bind_eq_ok.mp found with ⟨_, _, found⟩
  rcases bind_eq_ok.mp found with ⟨_, _, found⟩
  rcases bind_eq_ok.mp found with ⟨_, _, equal⟩
  cases equal
  exact .leaf rfl isSuffix shorter rfl

mutual

theorem nodeIn_operand {tokens rest : List Token} {node : Node}
    (found : operand tokens = .ok (node, rest)) : NodeIn node tokens rest := by
  have isSuffix := isSuffix_of_operand found
  have shorter := length_of_operand found
  match tokens, found with
  | [], found =>
    rw [operand_nil] at found
    cases found
  | token :: tail, found =>
    have self : token.text = Token.textTo (token :: tail) tail :=
      (Token.textTo_cons_self token tail).symm
    rw [operand_cons] at found
    split at found
    · cases found
      exact .leaf rfl isSuffix shorter self
    split at found
    · exact nodeIn_parenthesized found
    · cases found
      exact .leaf rfl isSuffix shorter self
    · split at found
      · rcases bind_eq_ok.mp found with ⟨⟨inner, after⟩, _, equal⟩
        cases equal
        exact .leaf rfl isSuffix shorter rfl
      · cases found
    · split at found
      · cases found
        exact .leaf rfl isSuffix shorter self
      split at found
      · exact nodeIn_caseOf found
      split at found
      · rcases bind_eq_ok.mp found with ⟨⟨inner, after⟩, _, equal⟩
        cases equal
        exact .leaf rfl isSuffix shorter rfl
      split at found
      · cases found
        exact .leaf rfl isSuffix shorter self
      · exact nodeIn_columnOrCall found
    · exact nodeIn_columnOrCall found
    · cases found
termination_by 4 * tokens.length
decreasing_by all_goals simp only [List.length_cons]; omega

theorem nodeIn_parenthesized {first : Token} {tokens rest : List Token} {node : Node}
    (found : parenthesized first tokens = .ok (node, rest)) : NodeIn node (first :: tokens) rest := by
  have isSuffix := isSuffix_of_parenthesized found
  unfold parenthesized at found
  split at found
  · rcases bind_eq_ok.mp found with ⟨after, closed, equal⟩
    cases equal
    have shorter := Nat.lt_succ_of_lt (length_of_closeGroup closed)
    exact .leaf rfl isSuffix shorter rfl
  · rcases bind_eq_ok.mp found with ⟨⟨inner, after⟩, innerFound, found⟩
    rcases bind_eq_ok.mp found with ⟨_, closed, equal⟩
    cases equal
    exact (nodeIn_expression innerFound).widen (List.suffix_cons first tokens)
      (isSuffix_of_expectRightParen closed)
termination_by 4 * tokens.length + 2

theorem nodeIn_caseOf {first : Token} {tokens rest : List Token} {node : Node}
    (found : caseOf first tokens = .ok (node, rest)) : NodeIn node (first :: tokens) rest := by
  rcases bind_eq_ok.mp found with ⟨⟨value, afterValue⟩, valueFound, found⟩
  have valueShorter := length_of_subject valueFound
  rcases bind_eq_ok.mp found with ⟨⟨clauses, afterClauses⟩, clausesFound, found⟩
  have clausesShorter := length_of_whenClauses clausesFound
  rcases bind_eq_ok.mp found with ⟨⟨default, afterDefault⟩, defaultFound, found⟩
  have defaultShorter := length_of_otherwise defaultFound
  rcases bind_eq_ok.mp found with ⟨after, ended, equal⟩
  have endShorter := length_of_expectWord ended
  cases equal
  have shorter : rest.length < (first :: tokens).length := by
    rw [List.length_cons]
    omega
  have clausesInside := (nodesIn_subject valueFound).append (nested_whenClauses clausesFound)
  have inside := clausesInside.append (nodesIn_otherwise defaultFound)
  exact .single shorter rfl
    (inside.widen (List.suffix_cons first tokens) (isSuffix_of_expectWord ended))
termination_by 4 * tokens.length + 3
decreasing_by all_goals omega

theorem nodeIn_columnOrCall {first : Token} {tokens rest : List Token} {node : Node}
    (found : columnOrCall first tokens = .ok (node, rest)) :
    NodeIn node (first :: tokens) rest := by
  have isSuffix := isSuffix_of_columnOrCall found
  have shorter : rest.length < (first :: tokens).length := unbound_spec found
  obtain ⟨parts, after, equation⟩ : ∃ parts after, optionalParts tokens = (parts, after) :=
    ⟨_, _, rfl⟩
  have partsSuffix : after <:+ first :: tokens := by
    simpa [equation] using (isSuffix_optionalParts tokens).trans (List.suffix_cons first tokens)
  have partsShorter : after.length ≤ tokens.length := by
    simpa [equation] using length_optionalParts_le tokens
  rw [columnOrCall_eq, equation] at found
  dsimp only at found
  split at found
  · rename_i isCall
    have tailShorter := length_tail_of_nextIs isCall
    split at found
    · split at found
      · rcases bind_eq_ok.mp found with ⟨_, _, equal⟩
        cases equal
        exact .leaf rfl isSuffix shorter rfl
      split at found
      · rcases bind_eq_ok.mp found with ⟨_, _, equal⟩
        cases equal
        exact .leaf rfl isSuffix shorter rfl
      · rcases bind_eq_ok.mp found with ⟨⟨arguments, afterArguments⟩, argumentsFound, found⟩
        rcases bind_eq_ok.mp found with ⟨_, closed, equal⟩
        cases equal
        have inside := nodesIn_callArguments argumentsFound
        exact .single shorter rfl (inside.widen ((List.tail_suffix after).trans partsSuffix)
          (isSuffix_of_expectRightParen closed))
    · rcases bind_eq_ok.mp found with ⟨_, _, equal⟩
      cases equal
      exact .leaf rfl isSuffix shorter rfl
  · cases found
    exact .leaf rfl isSuffix shorter rfl
termination_by 4 * tokens.length + 3
decreasing_by omega

theorem nodesIn_callArguments {typeFirst : Bool} {tokens rest : List Token} {nodes : List Node}
    (found : callArguments typeFirst tokens = .ok (nodes, rest)) : NodesIn nodes tokens rest := by
  rw [callArguments_eq] at found
  split at found
  · cases found
    exact .nil List.suffix_rfl
  split at found
  · rcases bind_eq_ok.mp found with ⟨⟨type, after⟩, typeFound, found⟩
    have typeShorter := length_of_dataType typeFound
    have typeIn := nodeIn_dataType typeFound
    dsimp only at found
    split at found
    · rename_i goesOn
      have shorter := length_tail_of_nextIs goesOn
      rcases bind_eq_ok.mp found with ⟨⟨arguments, _⟩, argumentsFound, equal⟩
      cases equal
      have argumentsIn := nodesIn_expressions argumentsFound
      exact typeIn.append (argumentsIn.widen (List.tail_suffix after) List.suffix_rfl)
    · cases found
      exact typeIn
  · exact nodesIn_expressions found
termination_by 4 * tokens.length + 3
decreasing_by all_goals omega

theorem nodesIn_expressions {tokens rest : List Token} {nodes : List Node}
    (found : expressions tokens = .ok (nodes, rest)) : NodesIn nodes tokens rest := by
  rw [expressions_eq] at found
  rcases bind_eq_ok.mp found with ⟨⟨first, after⟩, firstFound, found⟩
  have firstShorter := length_of_expression firstFound
  have firstIn := nodeIn_expression firstFound
  dsimp only at found
  split at found
  · rename_i goesOn
    have shorter := length_tail_of_nextIs goesOn
    rcases bind_eq_ok.mp found with ⟨⟨others, _⟩, othersFound, equal⟩
    cases equal
    have othersIn := nodesIn_expressions othersFound
    exact firstIn.append (othersIn.widen (List.tail_suffix after) List.suffix_rfl)
  · cases found
    exact firstIn
termination_by 4 * tokens.length + 2
decreasing_by all_goals omega

theorem nodeIn_expression {tokens rest : List Token} {node : Node}
    (found : expression tokens = .ok (node, rest)) : NodeIn node tokens rest := by
  have isSuffix := isSuffix_of_expression found
  have shorter := length_of_expression found
  rw [expression_eq] at found
  rcases bind_eq_ok.mp found with ⟨⟨first, after⟩, firstFound, found⟩
  dsimp only at found
  split at found
  · cases found
    exact nodeIn_operand firstFound
  · cases found
    exact .leaf rfl isSuffix shorter rfl
termination_by 4 * tokens.length + 1
decreasing_by omega

theorem nodesIn_subject {tokens rest : List Token} {node : Option Node}
    (found : subject tokens = .ok (node, rest)) : NodesIn node.toList tokens rest := by
  rw [subject_eq] at found
  split at found
  · cases found
    exact .nil List.suffix_rfl
  · rcases bind_eq_ok.mp found with ⟨⟨first, after⟩, firstFound, equal⟩
    cases equal
    exact nodeIn_expression firstFound
termination_by 4 * tokens.length + 2
decreasing_by omega

theorem nested_whenClauses {tokens rest : List Token} {clauses : List WhenClause}
    (found : whenClauses tokens = .ok (clauses, rest)) :
    Nested (clauses.map .clause) tokens rest := by
  match tokens, found with
  | [], found =>
    rw [whenClauses_nil] at found
    cases found
    exact .nil List.suffix_rfl
  | token :: tail, found =>
    rw [whenClauses_cons] at found
    split at found
    · rcases bind_eq_ok.mp found with ⟨⟨condition, afterCondition⟩, conditionFound, found⟩
      have conditionShorter := length_of_expression conditionFound
      rcases bind_eq_ok.mp found with ⟨afterThen, thenFound, found⟩
      have thenShorter := length_of_expectWord thenFound
      rcases bind_eq_ok.mp found with ⟨⟨value, afterValue⟩, valueFound, found⟩
      have valueShorter := length_of_expression valueFound
      rcases bind_eq_ok.mp found with ⟨⟨others, afterOthers⟩, othersFound, equal⟩
      cases equal
      have conditionIn := (nodeIn_expression conditionFound).widen (List.suffix_cons token tail)
        (isSuffix_of_expectWord thenFound)
      have inside := conditionIn.append (nodeIn_expression valueFound)
      have shorter : afterValue.length < (token :: tail).length := by
        simp only [List.length_cons]
        omega
      exact .cons List.suffix_rfl shorter rfl inside (nested_whenClauses othersFound)
    · cases found
      exact .nil List.suffix_rfl
termination_by 4 * tokens.length
decreasing_by all_goals simp only [List.length_cons]; omega

theorem nodesIn_otherwise {tokens rest : List Token} {node : Option Node}
    (found : otherwise tokens = .ok (node, rest)) : NodesIn node.toList tokens rest := by
  match tokens, found with
  | [], found =>
    rw [otherwise_nil] at found
    cases found
    exact .nil List.suffix_rfl
  | token :: tail, found =>
    rw [otherwise_cons] at found
    split at found
    · rcases bind_eq_ok.mp found with ⟨⟨value, after⟩, valueFound, equal⟩
      cases equal
      exact (nodeIn_expression valueFound).widen (List.suffix_cons token tail) List.suffix_rfl
    · cases found
      exact .nil List.suffix_rfl
termination_by 4 * tokens.length
decreasing_by simp only [List.length_cons]; omega

end

end Grammar

end SqlSchema
