import SqlSchema.Proofs.Expression
import SqlSchema.Proofs.Guise.Reading

/-!
Expressions in another guise. The readers call each other as they do in their equations, and so do
the lemmas about them.
-/

namespace SqlSchema.Grammar

open Guise

variable (guise : Guise)

theorem optionalParts_see (tokens : List Token) :
    optionalParts (see guise tokens) = see guise (optionalParts tokens) := by
  fun_induction optionalParts tokens with
  | case1 dot part rest isPart parts after equation induction =>
    simp only [see_cons, optionalParts, Token.kind_see, Token.isName_see, if_pos isPart,
      induction, equation, see_mk, Token.name_see]
  | case2 dot part rest noPart =>
    simp only [see_cons, optionalParts, Token.kind_see, Token.isName_see, if_neg noPart, see_mk,
      see_nil]
  | case3 tokens short =>
    cases tokens with
    | nil => rfl
    | cons dot tokens =>
      cases tokens with
      | nil => rfl
      | cons part rest => exact absurd rfl (short dot part rest)

theorem isTypeFirstFunction_see (function : String) :
    isTypeFirstFunction (see guise function) = isTypeFirstFunction function := by
  simp [isTypeFirstFunction]

/-- The signs of an operand look the same in every guise. -/
theorem isSign_see (text : String) :
    (see guise text = "-" ∨ see guise text = "+" ∨ see guise text = "~") ↔
      (text = "-" ∨ text = "+" ∨ text = "~") := by
  rw [see_eq_iff guise (by decide), see_eq_iff guise (by decide), see_eq_iff guise (by decide)]

mutual

theorem operand_reads (tokens : List Token) :
    guise.Reads (Node.Resembles guise) (operand tokens) (operand (see guise tokens)) := by
  cases tokens with
  | nil =>
    rw [see_nil, operand_nil]
    exact reads_refuse guise [] _
  | cons token rest =>
    have shows (after : List Token) := Token.shows_textTo guise (token :: rest) after
    rw [see_cons, operand_cons, operand_cons]
    simp only [← see_cons, isSign_see, Token.kind_see, Token.isWord_see, Token.isWordIn_see,
      nextIs_see, Token.literalValue_see, Token.text_see]
    cases token.kind.literal? with
    | some kind => exact .ok ⟨.literal kind _ (guise.shows_text _), rfl⟩
    | none =>
      dsimp only
      cases token.kind
      case leftParen => exact parenthesized_reads token rest
      case operator =>
        dsimp only
        split
        · refine reads_bind (operand_reads rest) ?_
          rintro inner inner' after - -
          exact .ok ⟨.unknown _ (shows after), rfl⟩
        · exact reads_refuse guise (token :: rest) _
      case word =>
        dsimp only
        split
        · exact .ok ⟨.literal .null _ (guise.shows_text _), rfl⟩
        split
        · exact caseOf_reads token rest
        split
        · refine reads_bind (expression_reads rest) ?_
          rintro inner inner' after - -
          exact .ok ⟨.unknown _ (shows after), rfl⟩
        split
        · exact .ok ⟨.call _ .nil (guise.shows_text _), rfl⟩
        · exact columnOrCall_reads token rest
      case quotedName => exact columnOrCall_reads token rest
      case «variable» => exact .ok ⟨.unknown _ (guise.shows_text _), rfl⟩
      all_goals exact reads_refuse guise (token :: rest) _
termination_by 4 * tokens.length
decreasing_by all_goals simp only [List.length_cons]; omega

theorem parenthesized_reads (first : Token) (rest : List Token) :
    guise.Reads (Node.Resembles guise) (parenthesized first rest)
      (parenthesized (see guise first) (see guise rest)) := by
  have shows (after : List Token) := Token.shows_textTo guise (first :: rest) after
  unfold parenthesized
  simp only [← see_cons, nextIsWord_see]
  split
  · rw [closeGroup_see]
    refine reads_bind_see fun after _ => ?_
    exact .ok ⟨.unknown _ (shows after), rfl⟩
  · refine reads_bind (expression_reads rest) ?_
    rintro inner inner' after - same
    simp only [expectRightParen_see]
    refine reads_bind_see fun after _ => ?_
    exact .ok ⟨same, rfl⟩
termination_by 4 * rest.length + 2

theorem caseOf_reads (first : Token) (rest : List Token) :
    guise.Reads (Node.Resembles guise) (caseOf first rest)
      (caseOf (see guise first) (see guise rest)) := by
  have shows (after : List Token) := Token.shows_textTo guise (first :: rest) after
  unfold caseOf
  simp only [← see_cons]
  refine reads_bind (subject_reads rest) ?_
  rintro subject subject' afterSubject found sameSubject
  have subjectShorter := length_of_subject found
  refine reads_bind (whenClauses_reads afterSubject) ?_
  rintro clauses clauses' afterClauses found sameClauses
  have clausesShorter : afterClauses.length ≤ afterSubject.length :=
    length_of_whenClauses found
  refine reads_bind (otherwise_reads afterClauses) ?_
  rintro default default' afterDefault - sameDefault
  simp only [expectWord_see]
  refine reads_bind_see fun after _ => ?_
  exact .ok ⟨.caseExpression sameSubject sameClauses sameDefault (shows after), rfl⟩
termination_by 4 * rest.length + 3
decreasing_by all_goals omega

theorem columnOrCall_reads (first : Token) (rest : List Token) :
    guise.Reads (Node.Resembles guise) (columnOrCall first rest)
      (columnOrCall (see guise first) (see guise rest)) := by
  have shows (after : List Token) := Token.shows_textTo guise (first :: rest) after
  obtain ⟨parts, after, equation⟩ : ∃ parts after, optionalParts rest = (parts, after) :=
    ⟨_, _, rfl⟩
  have partsShorter : after.length ≤ rest.length := by
    simpa [equation] using length_optionalParts_le rest
  rw [columnOrCall_eq, columnOrCall_eq, optionalParts_see, equation]
  simp only [← see_cons, see_mk, nextIs_see, isEmpty_see, Token.name_see, upperCaseIs_see, tail_see,
    nextIsWord_see, isTypeFirstFunction_see, skipGroup_see]
  split
  · rename_i isCall
    have shorter := length_tail_of_nextIs isCall
    split
    · split
      · refine reads_bind_see fun after _ => ?_
        exact .ok ⟨.unknown _ (shows after), rfl⟩
      split
      · refine reads_bind_see fun after _ => ?_
        exact .ok ⟨.unknown _ (shows after), rfl⟩
      · refine reads_bind (callArguments_reads (isTypeFirstFunction first.name) after.tail) ?_
        rintro arguments arguments' afterArguments - same
        simp only [expectRightParen_see]
        refine reads_bind_see fun after _ => ?_
        exact .ok ⟨.call _ same (shows after), rfl⟩
    · refine reads_bind_see fun after _ => ?_
      exact .ok ⟨.unknown _ (shows after), rfl⟩
  · rw [getLast_see guise (List.cons_ne_nil first.name parts)]
    exact .ok ⟨.columnRef _ (shows after), rfl⟩
termination_by 4 * rest.length + 3
decreasing_by all_goals omega

theorem callArguments_reads (typeFirst : Bool) (tokens : List Token) :
    guise.Reads (List.Forall₂ (Node.Resembles guise)) (callArguments typeFirst tokens)
      (callArguments typeFirst (see guise tokens)) := by
  rw [callArguments_eq, callArguments_eq, nextIs_see]
  split
  · exact .ok ⟨.nil, rfl⟩
  split
  · refine reads_bind (dataType_reads guise tokens) ?_
    rintro type type' after found same
    have typeShorter := length_of_dataType found
    simp only [nextIs_see, tail_see]
    split
    · rename_i goesOn
      have shorter := length_tail_of_nextIs goesOn
      refine reads_bind (expressions_reads after.tail) ?_
      rintro arguments arguments' after - sameArguments
      exact .ok ⟨.cons (.dataType same) sameArguments, rfl⟩
    · exact .ok ⟨.cons (.dataType same) .nil, rfl⟩
  · exact expressions_reads tokens
termination_by 4 * tokens.length + 3
decreasing_by all_goals omega

theorem expressions_reads (tokens : List Token) :
    guise.Reads (List.Forall₂ (Node.Resembles guise)) (expressions tokens)
      (expressions (see guise tokens)) := by
  rw [expressions_eq, expressions_eq]
  refine reads_bind (expression_reads tokens) ?_
  rintro first first' after found same
  have firstShorter := length_of_expression found
  simp only [nextIs_see, tail_see]
  split
  · rename_i goesOn
    have shorter := length_tail_of_nextIs goesOn
    refine reads_bind (expressions_reads after.tail) ?_
    rintro others others' after - sameOthers
    exact .ok ⟨.cons same sameOthers, rfl⟩
  · exact .ok ⟨.cons same .nil, rfl⟩
termination_by 4 * tokens.length + 2
decreasing_by all_goals omega

theorem expression_reads (tokens : List Token) :
    guise.Reads (Node.Resembles guise) (expression tokens) (expression (see guise tokens)) := by
  rw [expression_eq, expression_eq]
  refine reads_bind (operand_reads tokens) ?_
  rintro node node' after - same
  simp only [afterOperators?_see]
  cases afterOperators? after with
  | none => exact .ok ⟨same, rfl⟩
  | some rest => exact .ok ⟨.unknown _ (Token.shows_textTo guise tokens rest), rfl⟩
termination_by 4 * tokens.length + 1
decreasing_by all_goals omega

theorem subject_reads (tokens : List Token) :
    guise.Reads (Option.Rel (Node.Resembles guise)) (subject tokens)
      (subject (see guise tokens)) := by
  rw [subject_eq, subject_eq, nextIsWord_see, nextIsWord_see]
  split
  · exact .ok ⟨.none, rfl⟩
  · refine reads_bind (expression_reads tokens) ?_
    rintro node node' after - same
    exact .ok ⟨.some same, rfl⟩
termination_by 4 * tokens.length + 2
decreasing_by all_goals omega

theorem whenClauses_reads (tokens : List Token) :
    guise.Reads (List.Forall₂ (WhenClause.Resembles guise)) (whenClauses tokens)
      (whenClauses (see guise tokens)) := by
  cases tokens with
  | nil =>
    rw [see_nil, whenClauses_nil]
    exact .ok ⟨.nil, rfl⟩
  | cons token rest =>
    rw [see_cons, whenClauses_cons, whenClauses_cons]
    simp only [← see_cons, Token.isWord_see]
    split
    · refine reads_bind (expression_reads rest) ?_
      rintro condition condition' afterCondition found sameCondition
      have conditionShorter := length_of_expression found
      simp only [expectWord_see]
      refine reads_bind_see fun afterThen found => ?_
      have thenShorter := length_of_expectWord found
      refine reads_bind (expression_reads afterThen) ?_
      rintro value value' afterValue found sameValue
      have valueShorter := length_of_expression found
      have shows := Token.shows_textTo guise (token :: rest) afterValue
      refine reads_bind (whenClauses_reads afterValue) ?_
      rintro clauses clauses' after - sameClauses
      exact .ok ⟨.cons (.mk sameCondition sameValue shows) sameClauses, rfl⟩
    · exact .ok ⟨.nil, rfl⟩
termination_by 4 * tokens.length
decreasing_by all_goals simp only [List.length_cons]; omega

theorem otherwise_reads (tokens : List Token) :
    guise.Reads (Option.Rel (Node.Resembles guise)) (otherwise tokens)
      (otherwise (see guise tokens)) := by
  cases tokens with
  | nil =>
    rw [see_nil, otherwise_nil]
    exact .ok ⟨.none, rfl⟩
  | cons token rest =>
    rw [see_cons, otherwise_cons, otherwise_cons]
    simp only [← see_cons, Token.isWord_see]
    split
    · refine reads_bind (expression_reads rest) ?_
      rintro node node' after - same
      exact .ok ⟨.some same, rfl⟩
    · exact .ok ⟨.none, rfl⟩
termination_by 4 * tokens.length
decreasing_by all_goals simp only [List.length_cons]; omega

end

end SqlSchema.Grammar
