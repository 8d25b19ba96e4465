import SqlSchema.Proofs.Expression
import SqlSchema.Proofs.Parallel.DataType

/-!
Expressions in parallel lists. The readers call each other as they do in their equations, and so do
the lemmas about them. A list of expressions looks at what follows it, since a comma continues it;
so its lemma asks for one more token before the end.
-/

namespace SqlSchema.Grammar.Parallel

variable {exchange : Exchange}

mutual

theorem of_operand {tokens tokens' rest : List Token} {node : Node}
    (parallel : Parallel exchange tokens tokens') (found : operand tokens = .ok (node, rest))
    (within : exchange.after.length < rest.length) :
    ∃ rest', operand tokens' = .ok (node, rest') ∧ Parallel exchange rest rest' := by
  have shorter := length_of_operand found
  obtain ⟨start, line, token, front, front', equal, equal', parallelFront⟩ :=
    parallel.exists_cons (by omega)
  have size : tokens.length = front.length + 1 := by rw [equal, List.length_cons]
  have whole : Parallel exchange (token :: front) (token.relocated start line :: front') := by
    rwa [← equal, ← equal']
  rw [equal, operand_cons] at found
  rw [equal', operand_cons]
  rw [Token.kind_relocated]
  split at found
  · cases found
    exact ⟨_, rfl, parallelFront⟩
  split at found
  · exact of_parenthesized whole parallelFront found within
  · cases found
    exact ⟨_, rfl, parallelFront⟩
  · rw [Token.text_relocated]
    refine of_branch found (fun _ found => ?_) fun _ found => ?_
    · exact of_quoting_value (fun _ => Node.unknown "UnaryExpression") whole found
        fun _ innerFound => of_operand parallelFront innerFound within
    · cases found
  · rw [Token.isWord_relocated, Token.isWord_relocated, Token.isWord_relocated,
      Token.isWordIn_relocated, parallelFront.nextIs_eq (by decide) (by decide)]
    refine of_branch found (fun _ found => ?_) fun _ found =>
      of_branch found (fun _ found => of_caseOf whole parallelFront found within) fun _ found =>
      of_branch found (fun _ found => ?_) fun _ found =>
      of_branch found (fun _ found => ?_) fun _ found =>
        of_columnOrCall whole parallelFront found within
    · cases found
      exact ⟨_, rfl, parallelFront⟩
    · exact of_quoting_value (fun _ => Node.unknown "NotExpression") whole found
        fun _ innerFound => of_expression parallelFront innerFound within
    · cases found
      exact ⟨_, rfl, parallelFront⟩
  · exact of_columnOrCall whole parallelFront found within
  · cases found
termination_by 4 * tokens.length
decreasing_by all_goals omega

theorem of_parenthesized {first : Token} {start line : Nat} {tokens tokens' rest : List Token}
    {node : Node}
    (whole : Parallel exchange (first :: tokens) (first.relocated start line :: tokens'))
    (parallel : Parallel exchange tokens tokens')
    (found : parenthesized first tokens = .ok (node, rest))
    (within : exchange.after.length < rest.length) :
    ∃ rest', parenthesized (first.relocated start line) tokens' = .ok (node, rest') ∧
      Parallel exchange rest rest' := by
  unfold parenthesized at found ⊢
  rw [parallel.nextIsWord_eq]
  refine of_branch found (fun _ found => ?_) fun _ found => ?_
  · exact of_quoting (Node.unknown "SubqueryExpression") whole found
      fun closed => parallel.of_closeGroup closed within
  · obtain ⟨⟨inner, afterInner⟩, innerFound, found⟩ := bind_eq_ok.mp found
    obtain ⟨after, closed, equal⟩ := bind_eq_ok.mp found
    cases equal
    have shorter := length_of_expectRightParen closed
    obtain ⟨afterInner', innerFound', parallelInner⟩ :=
      of_expression parallel innerFound (by omega)
    obtain ⟨rest', closed', parallelRest⟩ := parallelInner.of_expectRightParen closed within
    exact ⟨rest', bind_eq_ok.mpr ⟨_, innerFound', bind_eq_ok.mpr ⟨_, closed', rfl⟩⟩,
      parallelRest⟩
termination_by 4 * tokens.length + 2

theorem of_caseOf {first : Token} {start line : Nat} {tokens tokens' rest : List Token}
    {node : Node}
    (whole : Parallel exchange (first :: tokens) (first.relocated start line :: tokens'))
    (parallel : Parallel exchange tokens tokens')
    (found : caseOf first tokens = .ok (node, rest))
    (within : exchange.after.length < rest.length) :
    ∃ rest', caseOf (first.relocated start line) tokens' = .ok (node, rest') ∧
      Parallel exchange rest rest' := by
  obtain ⟨⟨value, afterValue⟩, valueFound, found⟩ := bind_eq_ok.mp found
  obtain ⟨⟨clauses, afterClauses⟩, clausesFound, found⟩ := bind_eq_ok.mp found
  obtain ⟨⟨default, afterDefault⟩, defaultFound, found⟩ := bind_eq_ok.mp found
  obtain ⟨after, ended, equal⟩ := bind_eq_ok.mp found
  cases equal
  have valueShorter := length_of_subject valueFound
  have clausesShorter := length_of_whenClauses clausesFound
  have defaultShorter := length_of_otherwise defaultFound
  have shorter := length_of_expectWord ended
  obtain ⟨_, valueFound', parallelValue⟩ := of_subject parallel valueFound (by omega)
  obtain ⟨_, clausesFound', parallelClauses⟩ :=
    of_whenClauses parallelValue clausesFound (by omega)
  obtain ⟨_, defaultFound', parallelDefault⟩ :=
    of_otherwise parallelClauses defaultFound (by omega)
  obtain ⟨rest', ended', parallelRest⟩ := parallelDefault.of_expectWord ended
  rw [← whole.textTo_eq parallelRest]
  exact ⟨rest', bind_eq_ok.mpr ⟨_, valueFound', bind_eq_ok.mpr ⟨_, clausesFound',
    bind_eq_ok.mpr ⟨_, defaultFound', bind_eq_ok.mpr ⟨_, ended', rfl⟩⟩⟩⟩, parallelRest⟩
termination_by 4 * tokens.length + 3
decreasing_by all_goals omega

theorem of_columnOrCall {first : Token} {start line : Nat} {tokens tokens' rest : List Token}
    {node : Node}
    (whole : Parallel exchange (first :: tokens) (first.relocated start line :: tokens'))
    (parallel : Parallel exchange tokens tokens')
    (found : columnOrCall first tokens = .ok (node, rest))
    (within : exchange.after.length < rest.length) :
    ∃ rest', columnOrCall (first.relocated start line) tokens' = .ok (node, rest') ∧
      Parallel exchange rest rest' := by
  obtain ⟨sameParts, parallelParts⟩ := parallel.of_optionalParts
  have partsShorter := length_optionalParts_le tokens
  rw [columnOrCall_eq] at found ⊢
  dsimp only at found ⊢
  rw [sameParts, Token.name_relocated, parallelParts.nextIs_eq (by decide) (by decide)]
  refine of_branch found (fun isCall found => ?_) fun _ found => ?_
  · have shorter := length_tail_of_nextIs isCall
    have parallelTail := parallelParts.tail_of_nextIs isCall (by decide) (by decide)
    rw [parallelTail.nextIsWord_eq]
    refine of_branch found (fun _ found => of_branch found (fun _ found => ?_) fun _ found =>
      of_branch found (fun _ found => ?_) fun _ found => ?_) fun _ found => ?_
    · exact of_quoting (Node.unknown "CastExpression") whole found
        fun skipped => parallelParts.of_skipGroup skipped within
    · exact of_quoting (Node.unknown "SubqueryExpression") whole found
        fun skipped => parallelParts.of_skipGroup skipped within
    · obtain ⟨⟨arguments, afterArguments⟩, argumentsFound, found⟩ := bind_eq_ok.mp found
      obtain ⟨after, closed, equal⟩ := bind_eq_ok.mp found
      cases equal
      have closedShorter : rest.length < afterArguments.length :=
        length_of_expectRightParen closed
      obtain ⟨_, argumentsFound', parallelArguments⟩ :=
        of_callArguments parallelTail argumentsFound (by rw [List.length_tail]; omega)
      obtain ⟨rest', closed', parallelRest⟩ :=
        parallelArguments.of_expectRightParen closed within
      rw [← whole.textTo_eq parallelRest]
      exact ⟨rest', bind_eq_ok.mpr ⟨_, argumentsFound', bind_eq_ok.mpr ⟨_, closed', rfl⟩⟩,
        parallelRest⟩
    · exact of_quoting (Node.unknown "UserDefinedFunctionCallExpression") whole found
        fun skipped => parallelParts.of_skipGroup skipped within
  · cases found
    rw [← whole.textTo_eq parallelParts]
    exact ⟨_, rfl, parallelParts⟩
termination_by 4 * tokens.length + 3
decreasing_by all_goals omega

theorem of_callArguments {typeFirst : Bool} {tokens tokens' rest : List Token}
    {nodes : List Node} (parallel : Parallel exchange tokens tokens')
    (found : callArguments typeFirst tokens = .ok (nodes, rest))
    (within : exchange.after.length < rest.tail.length) :
    ∃ rest', callArguments typeFirst tokens' = .ok (nodes, rest') ∧
      Parallel exchange rest rest' := by
  have notLonger := length_of_callArguments found
  rw [List.length_tail] at within
  have withinTokens : exchange.after.length < tokens.tail.length := by
    rw [List.length_tail]
    omega
  rw [callArguments_eq] at found ⊢
  rw [parallel.nextIs_eq_of_within withinTokens]
  refine of_branch found (fun _ found => ?_) fun _ found =>
    of_branch found (fun _ found => ?_) fun _ found =>
      of_expressions parallel found (by rwa [List.length_tail])
  · cases found
    exact ⟨_, rfl, parallel⟩
  · obtain ⟨⟨type, afterType⟩, typeFound, found⟩ := bind_eq_ok.mp found
    have typeShorter := length_of_dataType typeFound
    dsimp only at found
    split at found
    · rename_i goesOn
      obtain ⟨⟨others, after⟩, othersFound, equal⟩ := bind_eq_ok.mp found
      cases equal
      dsimp only at within
      have shorter := length_of_expressions othersFound
      have tailShorter := length_tail_of_nextIs goesOn
      obtain ⟨afterType', typeFound', parallelType⟩ := parallel.of_dataType typeFound (by omega)
      obtain ⟨rest', othersFound', parallelRest⟩ :=
        of_expressions (parallelType.tail (by omega)) othersFound (by rwa [List.length_tail])
      refine ⟨rest', bind_eq_ok.mpr ⟨_, typeFound', ?_⟩, parallelRest⟩
      dsimp only
      rw [parallelType.nextIs_eq_of_within (by omega), if_pos goesOn]
      exact bind_eq_ok.mpr ⟨_, othersFound', rfl⟩
    · rename_i ends
      cases found
      obtain ⟨rest', typeFound', parallelRest⟩ := parallel.of_dataType typeFound (by omega)
      refine ⟨rest', bind_eq_ok.mpr ⟨_, typeFound', ?_⟩, parallelRest⟩
      dsimp only
      rw [parallelRest.nextIs_eq_of_within (by rwa [List.length_tail]), if_neg ends]
termination_by 4 * tokens.length + 3
decreasing_by all_goals omega

theorem of_expressions {tokens tokens' rest : List Token} {nodes : List Node}
    (parallel : Parallel exchange tokens tokens')
    (found : expressions tokens = .ok (nodes, rest))
    (within : exchange.after.length < rest.tail.length) :
    ∃ rest', expressions tokens' = .ok (nodes, rest') ∧ Parallel exchange rest rest' := by
  rw [List.length_tail] at within
  rw [expressions_eq] at found ⊢
  obtain ⟨⟨first, afterFirst⟩, firstFound, found⟩ := bind_eq_ok.mp found
  have firstShorter := length_of_expression firstFound
  dsimp only at found
  split at found
  · rename_i goesOn
    obtain ⟨⟨others, after⟩, othersFound, equal⟩ := bind_eq_ok.mp found
    cases equal
    dsimp only at within
    have shorter := length_of_expressions othersFound
    have tailShorter := length_tail_of_nextIs goesOn
    obtain ⟨afterFirst', firstFound', parallelFirst⟩ := of_expression parallel firstFound (by omega)
    obtain ⟨rest', othersFound', parallelRest⟩ :=
      of_expressions (parallelFirst.tail (by omega)) othersFound (by rwa [List.length_tail])
    refine ⟨rest', bind_eq_ok.mpr ⟨_, firstFound', ?_⟩, parallelRest⟩
    dsimp only
    rw [parallelFirst.nextIs_eq_of_within (by omega), if_pos goesOn]
    exact bind_eq_ok.mpr ⟨_, othersFound', rfl⟩
  · rename_i ends
    cases found
    obtain ⟨rest', firstFound', parallelRest⟩ := of_expression parallel firstFound (by omega)
    refine ⟨rest', bind_eq_ok.mpr ⟨_, firstFound', ?_⟩, parallelRest⟩
    dsimp only
    rw [parallelRest.nextIs_eq_of_within (by rwa [List.length_tail]), if_neg ends]
termination_by 4 * tokens.length + 2
decreasing_by all_goals omega

theorem of_expression {tokens tokens' rest : List Token} {node : Node}
    (parallel : Parallel exchange tokens tokens')
    (found : expression tokens = .ok (node, rest))
    (within : exchange.after.length < rest.length) :
    ∃ rest', expression tokens' = .ok (node, rest') ∧ Parallel exchange rest rest' := by
  rw [expression_eq] at found ⊢
  obtain ⟨⟨first, after⟩, firstFound, found⟩ := bind_eq_ok.mp found
  cases operators : afterOperators? after with
  | none =>
    simp only [operators] at found
    cases found
    obtain ⟨rest', found', parallelRest⟩ := of_operand parallel firstFound within
    refine ⟨rest', bind_eq_ok.mpr ⟨_, found', ?_⟩, parallelRest⟩
    simp only [parallelRest.afterOperators?_of_none operators]
  | some chain =>
    simp only [operators] at found
    cases found
    have shorter := length_of_afterOperators? operators
    obtain ⟨after', found', parallelAfter⟩ := of_operand parallel firstFound (by omega)
    obtain ⟨rest', operators', parallelRest⟩ :=
      parallelAfter.of_afterOperators? operators within
    refine ⟨rest', bind_eq_ok.mpr ⟨_, found', ?_⟩, parallelRest⟩
    simp only [operators', parallel.textTo_eq parallelRest]
termination_by 4 * tokens.length + 1
decreasing_by all_goals omega

theorem of_subject {tokens tokens' rest : List Token} {node : Option Node}
    (parallel : Parallel exchange tokens tokens')
    (found : subject tokens = .ok (node, rest))
    (within : exchange.after.length < rest.length) :
    ∃ rest', subject tokens' = .ok (node, rest') ∧ Parallel exchange rest rest' := by
  rw [subject_eq] at found ⊢
  rw [parallel.nextIsWord_eq, parallel.nextIsWord_eq]
  refine of_branch found (fun _ found => ?_) fun _ found => ?_
  · cases found
    exact ⟨_, rfl, parallel⟩
  · exact of_wrapping some found fun _ valueFound => of_expression parallel valueFound within
termination_by 4 * tokens.length + 2
decreasing_by all_goals omega

theorem of_whenClauses {tokens tokens' rest : List Token} {clauses : List WhenClause}
    (parallel : Parallel exchange tokens tokens')
    (found : whenClauses tokens = .ok (clauses, rest))
    (within : exchange.after.length < rest.length) :
    ∃ rest', whenClauses tokens' = .ok (clauses, rest') ∧ Parallel exchange rest rest' := by
  rcases parallel.eq_stop_or_cons with
    ⟨equal, equal'⟩ | ⟨start, line, token, front, front', equal, equal', parallelFront⟩
  · rw [equal, whenClauses_cons, exchange.ends.isWord_eq_false] at found
    rw [equal', whenClauses_cons, exchange.newEnds.isWord_eq_false]
    cases found
    exact ⟨_, rfl, by rwa [← equal, ← equal']⟩
  · have size : tokens.length = front.length + 1 := by rw [equal, List.length_cons]
    have whole : Parallel exchange (token :: front) (token.relocated start line :: front') := by
      rwa [← equal, ← equal']
    rw [equal, whenClauses_cons] at found
    rw [equal', whenClauses_cons]
    rw [Token.isWord_relocated]
    refine of_branch found (fun _ found => ?_) fun _ found => ?_
    · obtain ⟨⟨condition, afterCondition⟩, conditionFound, found⟩ := bind_eq_ok.mp found
      obtain ⟨afterThen, thenFound, found⟩ := bind_eq_ok.mp found
      obtain ⟨⟨value, afterValue⟩, valueFound, found⟩ := bind_eq_ok.mp found
      obtain ⟨⟨others, after⟩, othersFound, equal⟩ := bind_eq_ok.mp found
      cases equal
      have conditionShorter := length_of_expression conditionFound
      have thenShorter := length_of_expectWord thenFound
      have valueShorter := length_of_expression valueFound
      have shorter := length_of_whenClauses othersFound
      obtain ⟨_, conditionFound', parallelCondition⟩ :=
        of_expression parallelFront conditionFound (by omega)
      obtain ⟨_, thenFound', parallelThen⟩ := parallelCondition.of_expectWord thenFound
      obtain ⟨_, valueFound', parallelValue⟩ := of_expression parallelThen valueFound (by omega)
      obtain ⟨rest', othersFound', parallelRest⟩ :=
        of_whenClauses parallelValue othersFound within
      rw [← whole.textTo_eq parallelValue]
      exact ⟨rest', bind_eq_ok.mpr ⟨_, conditionFound', bind_eq_ok.mpr ⟨_, thenFound',
        bind_eq_ok.mpr ⟨_, valueFound', bind_eq_ok.mpr ⟨_, othersFound', rfl⟩⟩⟩⟩, parallelRest⟩
    · cases found
      exact ⟨_, rfl, whole⟩
termination_by 4 * tokens.length
decreasing_by all_goals omega

theorem of_otherwise {tokens tokens' rest : List Token} {node : Option Node}
    (parallel : Parallel exchange tokens tokens')
    (found : otherwise tokens = .ok (node, rest))
    (within : exchange.after.length < rest.length) :
    ∃ rest', otherwise tokens' = .ok (node, rest') ∧ Parallel exchange rest rest' := by
  rcases parallel.eq_stop_or_cons with
    ⟨equal, equal'⟩ | ⟨start, line, token, front, front', equal, equal', parallelFront⟩
  · rw [equal, otherwise_cons, exchange.ends.isWord_eq_false] at found
    rw [equal', otherwise_cons, exchange.newEnds.isWord_eq_false]
    cases found
    exact ⟨_, rfl, by rwa [← equal, ← equal']⟩
  · have size : tokens.length = front.length + 1 := by rw [equal, List.length_cons]
    have whole : Parallel exchange (token :: front) (token.relocated start line :: front') := by
      rwa [← equal, ← equal']
    rw [equal, otherwise_cons] at found
    rw [equal', otherwise_cons]
    rw [Token.isWord_relocated]
    refine of_branch found (fun _ found => ?_) fun _ found => ?_
    · exact of_wrapping some found fun _ valueFound =>
        of_expression parallelFront valueFound within
    · cases found
      exact ⟨_, rfl, whole⟩
termination_by 4 * tokens.length
decreasing_by all_goals omega

end

end SqlSchema.Grammar.Parallel
