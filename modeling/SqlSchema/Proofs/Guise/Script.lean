import SqlSchema.Proofs.Guise.Constraint
import SqlSchema.Proofs.Parallel.Element

/-!
Tables and whole scripts in another guise. A script in the guise is refused at the same token, or
has statements that resemble those of the script.
-/

namespace SqlSchema.Grammar

open Guise

variable (guise : Guise) (tokens : List Token)

/-! ## Elements -/

theorem unknownElement_reads (typeName : String) :
    guise.Reads (Node.Resembles guise) (unknownElement typeName tokens)
      (unknownElement typeName (see guise tokens)) := by
  unfold unknownElement
  rw [skipElement_see]
  refine reads_bind_see fun rest _ => ?_
  exact .ok ⟨.unknown typeName (Token.shows_textTo guise tokens rest), rfl⟩

/-- A reader of one node as a reader of a list. -/
theorem reads_single {tokens tokens' : List Token}
    {read : List Token → Except Refusal (Node × List Token)}
    (same : guise.Reads (Node.Resembles guise) (read tokens) (read tokens')) :
    guise.Reads (List.Forall₂ (Node.Resembles guise))
      (read tokens >>= fun item => .ok ([item.1], item.2))
      (read tokens' >>= fun item => .ok ([item.1], item.2)) := by
  refine same.bind ?_
  rintro ⟨node, rest⟩ ⟨node', rest'⟩ - ⟨sameNode, sameRest⟩
  exact .ok ⟨.cons sameNode .nil, sameRest⟩

theorem tableElement_reads :
    guise.Reads (List.Forall₂ (Node.Resembles guise)) (tableElement tokens)
      (tableElement (see guise tokens)) := by
  unfold tableElement
  simp only [isEmpty_see, nextIsWordIn_see, nextIsWord_see, nextAreWords_see]
  split
  · exact reads_refuse guise [] _
  split
  · refine reads_bind (constraint_reads guise tokens) ?_
    rintro node node' rest - same
    simp only [atElementEnd_see]
    split
    · exact .ok ⟨.cons same .nil, rfl⟩
    · refine reads_bind (unknownElement_reads guise rest "ConstraintOption") ?_
      rintro option option' rest - sameOption
      exact .ok ⟨.cons same (.cons sameOption .nil), rfl⟩
  split
  · exact reads_single guise (unknownElement_reads guise tokens "IndexDefinition")
  split
  · exact reads_single guise (unknownElement_reads guise tokens "PeriodDefinition")
  · exact reads_single guise (column_reads guise tokens)

theorem tableElements_reads (tokens : List Token) :
    guise.Reads (List.Forall₂ (Node.Resembles guise)) (tableElements tokens)
      (tableElements (see guise tokens)) := by
  rw [tableElements_eq, tableElements_eq]
  refine reads_bind (tableElement_reads guise tokens) ?_
  rintro nodes nodes' rest found same
  have notLonger : rest.length ≤ tokens.length := length_of_tableElement found
  have further : guise.Reads (List.Forall₂ (Node.Resembles guise)) (furtherElements rest)
      (furtherElements (see guise rest)) := by
    unfold furtherElements
    simp only [nextIs_see, tail_see]
    split
    · rename_i goesOn
      have tailShorter := length_tail_of_nextIs goesOn
      split
      · exact .ok ⟨.nil, rfl⟩
      · exact tableElements_reads rest.tail
    · exact .ok ⟨.nil, rfl⟩
  refine reads_bind further ?_
  rintro others others' after - sameOthers
  exact .ok ⟨List.rel_append same sameOthers, rfl⟩
termination_by tokens.length
decreasing_by omega

theorem tableDefinition_reads :
    guise.Reads (TableDefinition.Resembles guise) (tableDefinition tokens)
      (tableDefinition (see guise tokens)) := by
  unfold tableDefinition
  rw [nextIs_see, tail_see]
  split
  · refine reads_bind (tableElements_reads guise tokens.tail) ?_
    rintro children children' rest - same
    simp only [expectRightParen_see]
    refine reads_bind_see fun after _ => ?_
    exact .ok ⟨⟨same, Token.shows_textTo guise tokens after⟩, rfl⟩
  · exact reads_refuse guise tokens _

/-! ## Statements -/

theorem tableOption?_reads :
    StepsRead guise (fun _ _ => True) (tableOption? tokens) (tableOption? (see guise tokens)) := by
  unfold tableOption?
  simp only [nextIsWordIn_see, tail_see, nextIsName_see, nextIs_see, nextIsWord_see, skipGroup_see,
    drop_see]
  split
  · have label : (if nextIsName tokens.tail || nextIs .string tokens.tail then
        see guise tokens.tail.tail else see guise tokens.tail) =
        see guise (if nextIsName tokens.tail || nextIs .string tokens.tail then
          tokens.tail.tail else tokens.tail) := by
      split <;> rfl
    rw [label, skipOptionalGroup_see]
    refine reads_bind_see fun rest _ => ?_
    exact .ok (.some ⟨trivial, rfl⟩)
  split
  · refine reads_bind_see fun rest _ => ?_
    exact .ok (.some ⟨trivial, rfl⟩)
  split
  · exact .ok (.some ⟨trivial, rfl⟩)
  · exact .ok .none

@[simp] theorem tableOptions_see :
    tableOptions (see guise tokens) = see guise (tableOptions tokens) :=
  tokensAfter_many guise tokens (tableOption?_reads guise)

theorem tableNameParts_see :
    tableNameParts (see guise tokens) = see guise (tableNameParts tokens) := by
  fun_induction tableNameParts tokens with
  | case1 => rfl
  | case2 dot isDot =>
    simp only [see_cons, see_nil, tableNameParts, Token.kind_see, if_pos isDot]
    exact see_refuse guise [] _
  | case3 dot isDot part tail isEmpty refusal failed induction =>
    rw [see_cons] at induction
    simp only [see_cons, tableNameParts, Token.kind_see, if_pos isDot, if_pos isEmpty,
      induction, failed, see_error]
  | case4 dot isDot part tail isEmpty parts rest found induction =>
    rw [see_cons] at induction
    simp only [see_cons, tableNameParts, Token.kind_see, if_pos isDot, if_pos isEmpty,
      induction, found, see_ok, see_mk, see_empty]
  | case5 dot isDot part tail notEmpty isName refusal failed induction =>
    simp only [see_cons, tableNameParts, Token.kind_see, if_pos isDot, if_neg notEmpty,
      Token.isName_see, if_pos isName, induction, failed, see_error]
  | case6 dot isDot part tail notEmpty isName parts rest found induction =>
    simp only [see_cons, tableNameParts, Token.kind_see, if_pos isDot, if_neg notEmpty,
      Token.isName_see, if_pos isName, Token.name_see, induction, found, see_ok, see_mk]
  | case7 dot isDot part tail notEmpty noName =>
    simp only [see_cons, tableNameParts, Token.kind_see, if_pos isDot, if_neg notEmpty,
      Token.isName_see, if_neg noName]
    exact see_refuse guise (part :: tail) _
  | case8 token rest noDot =>
    rw [see_cons, tableNameParts.eq_def]
    simp only [Token.kind_see, if_neg noDot]
    rfl

theorem tableName_see (defaultSchema : String) :
    tableName (see guise defaultSchema) (see guise tokens) =
      see guise (tableName defaultSchema tokens) := by
  unfold tableName
  rw [name_see]
  refine see_bind ?_
  rintro ⟨first, rest⟩
  simp only [see_mk, tableNameParts_see]
  refine see_bind ?_
  rintro ⟨parts, rest⟩
  simp only [see_mk, ← see_cons, length_see]
  split
  · have schema : (see guise (first :: parts)).dropLast.getLast?.filter
        (fun schema => !schema.isEmpty) =
        see guise ((first :: parts).dropLast.getLast?.filter fun schema => !schema.isEmpty) := by
      rw [dropLast_see, getLast?_see]
      cases (first :: parts).dropLast.getLast? with
      | none => rfl
      | some schema =>
        simp only [see_some, Option.filter_some, isEmptyText_see]
        split <;> rfl
    rw [schema, getLast_see guise (List.cons_ne_nil first parts)]
    cases (first :: parts).dropLast.getLast?.filter fun schema => !schema.isEmpty <;> rfl
  · exact see_refuse guise rest _

theorem createTable_reads (defaultSchema : String) :
    guise.Reads (CreateTable.Resembles guise) (createTable defaultSchema tokens)
      (createTable (see guise defaultSchema) (see guise tokens)) := by
  unfold createTable
  rw [drop_see, tableName_see]
  refine reads_bind_see ?_
  rintro ⟨⟨schema, name⟩, rest⟩ -
  refine reads_bind (tableDefinition_reads guise rest) ?_
  rintro definition definition' rest - same
  simp only [tableOptions_see]
  refine reads_bind_see fun after _ => ?_
  exact .ok ⟨⟨rfl, rfl, Token.shows_textTo guise tokens after, same⟩, rfl⟩

/-! ## Scripts -/

@[simp] theorem atModule_see : atModule (see guise tokens) = atModule tokens := by
  unfold atModule
  have words : (if nextAreWords ["OR", "ALTER"] tokens.tail then see guise (tokens.drop 3)
      else see guise tokens.tail) =
      see guise (if nextAreWords ["OR", "ALTER"] tokens.tail then tokens.drop 3
        else tokens.tail) := by
    split <;> rfl
  simp only [nextIsWordIn_see, tail_see, nextAreWords_see, drop_see, words]

theorem skipStatement_see (depth : Nat) :
    skipStatement depth (see guise tokens) = see guise (skipStatement depth tokens) := by
  induction tokens generalizing depth with
  | nil => rfl
  | cons token rest induction =>
    rw [see_cons]
    unfold skipStatement
    simp only [Token.kind_see, Token.endsBatch_see, Token.isWord_see]
    split
    · rfl
    · generalize token.kind = kind
      split
      · exact induction _
      · exact induction _
      · exact induction _

theorem afterStatement_see (first : Token) (rest : List Token) :
    afterStatement (see guise first) (see guise rest) =
      see guise (afterStatement first rest) := by
  unfold afterStatement
  rw [← see_cons, atModule_see, skipStatement_see]
  split
  · refine List.dropWhile_map.trans ?_
    have same : (fun token : Token => !token.endsBatch) ∘ guise.token =
        fun token => !token.endsBatch :=
      funext fun token => congrArg (!·) (Token.endsBatch_see guise token)
    exact congrArg (fun test => see guise (rest.dropWhile test)) same
  · rfl

theorem dropBatchCount_see :
    dropBatchCount (see guise tokens) = see guise (dropBatchCount tokens) := by
  cases tokens with
  | nil => rfl
  | cons token rest =>
    simp only [see_cons, dropBatchCount, Token.kind_see, Token.opensLine_see]
    split <;> rfl

/-- The statements of a script are read in the same places in every guise. -/
theorem statements_reads (defaultSchema : String) (tokens : List Token) :
    SameOutcome (List.Forall₂ (Statement.Resembles guise))
      (fun first second => second = see guise first) (statements defaultSchema tokens)
      (statements (see guise defaultSchema) (see guise tokens)) := by
  cases tokens with
  | nil =>
    rw [see_nil, statements_nil, statements_nil]
    exact .ok .nil
  | cons token rest =>
    have countShorter := length_dropBatchCount_le rest
    have afterShorter := length_afterStatement_le token rest
    rw [see_cons, statements_cons, statements_cons]
    simp only [← see_cons, Token.kind_see, Token.endsBatch_see, nextAreWords_see]
    split
    · exact statements_reads defaultSchema rest
    split
    · rw [dropBatchCount_see]
      exact statements_reads defaultSchema (dropBatchCount rest)
    split
    · refine reads_bind (createTable_reads guise (token :: rest) defaultSchema) ?_
      rintro statement statement' after found same
      have shorter : after.length < (token :: rest).length := length_of_createTable found
      refine (statements_reads defaultSchema after).map ?_
      intro others others' sameOthers
      exact .cons (.createTable same) sameOthers
    · rw [afterStatement_see]
      refine (statements_reads defaultSchema (afterStatement token rest)).map ?_
      intro others others' sameOthers
      exact .cons (.other (Token.shows_textTo guise (token :: rest) _)) sameOthers
termination_by tokens.length
decreasing_by all_goals simp only [List.length_cons] at *; omega

/-- Scripts that are the same in a guise are refused at tokens that are the same in it, or have
statements that resemble the same statements. -/
theorem statements_alike (defaultSchema : String) {tokens tokens' : List Token}
    (same : see guise tokens = see guise tokens') :
    SameOutcome guise.Alike (fun first second => see guise first = see guise second)
      (statements defaultSchema tokens) (statements defaultSchema tokens') := by
  have left := statements_reads guise defaultSchema tokens
  have right := statements_reads guise defaultSchema tokens'
  rw [same] at left
  refine (left.join right).imp_error ?_
  rintro refusal refusal' ⟨middle, found, found'⟩
  exact found.symm.trans found'

end SqlSchema.Grammar
