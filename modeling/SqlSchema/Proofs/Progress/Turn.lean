import SqlSchema.Proofs.Progress.Loop

/-!
Progress. A turn of a loop needs the turns after it only at later tokens, so no loop takes more
turns than there are tokens, and none of them leaves the list of tokens.
-/

namespace SqlSchema.Grammar

/-- Results are the same if what is done with a value is. -/
theorem bind_congr_ok {α β ε : Type} {result : Except ε α} {next next' : α → Except ε β}
    (same : ∀ value, result = .ok value → next value = next' value) :
    result >>= next = result >>= next' := by
  cases result with
  | error error => rfl
  | ok value => exact same value rfl

/-- Whether `rest` begins at a later token of `tokens`. -/
def IsLater (rest tokens : List Token) : Prop :=
  rest <:+ tokens ∧ rest.length < tokens.length

namespace IsLater

variable {first second third : List Token}

theorem of_suffix_of_isLater (isSuffix : first <:+ second) (isLater : IsLater second third) :
    IsLater first third :=
  ⟨isSuffix.trans isLater.1, Nat.lt_of_le_of_lt isSuffix.length_le isLater.2⟩

theorem of_isLater_of_suffix (isLater : IsLater first second) (isSuffix : second <:+ third) :
    IsLater first third :=
  ⟨isLater.1.trans isSuffix, Nat.lt_of_lt_of_le isLater.2 isSuffix.length_le⟩

theorem trans (left : IsLater first second) (right : IsLater second third) :
    IsLater first third :=
  of_suffix_of_isLater left.1 right

theorem cons (token : Token) (rest : List Token) : IsLater rest (token :: rest) :=
  ⟨List.suffix_cons token rest, Nat.lt_add_one rest.length⟩

theorem tail {tokens : List Token} {kind : TokenKind} (next : nextIs kind tokens = true) :
    IsLater tokens.tail tokens :=
  ⟨List.tail_suffix tokens, length_tail_of_nextIs next⟩

end IsLater

namespace Loop

/-- Whether the readers `further` are those of the grammar wherever a later turn can begin. -/
def AgreesAfter (tokens : List Token) (further : Readers) : Prop :=
  ∀ loop rest, IsLater rest tokens → further loop rest = read loop rest

/-- Whether the readers `further` are those of the grammar from these tokens on. -/
def AgreesFrom (tokens : List Token) (further : Readers) : Prop :=
  ∀ loop rest, rest <:+ tokens → further loop rest = read loop rest

variable {further : Readers} {tokens rest : List Token}

theorem AgreesAfter.tail {token : Token} (agrees : AgreesAfter (token :: rest) further) :
    AgreesFrom rest further :=
  fun loop after isSuffix =>
    agrees loop after (.of_suffix_of_isLater isSuffix (.cons token rest))

theorem AgreesFrom.mono (agrees : AgreesFrom tokens further) (isSuffix : rest <:+ tokens) :
    AgreesFrom rest further :=
  fun loop after isLater => agrees loop after (isLater.trans isSuffix)

/-! ## Expressions -/

theorem callArgumentsTurn_eq (agrees : AgreesFrom tokens further) (typeFirst : Bool) :
    callArgumentsTurn further typeFirst tokens = callArguments typeFirst tokens := by
  rw [callArgumentsTurn, callArguments_eq, agrees expressions tokens List.suffix_rfl]
  congr 2
  refine bind_congr_ok ?_
  rintro ⟨type, after⟩ found
  dsimp only
  rw [agrees expressions after.tail ((List.tail_suffix after).trans (isSuffix_of_dataType found))]
  rfl

theorem columnOrCallTurn_eq (agrees : AgreesFrom rest further) (first : Token) :
    columnOrCallTurn further first rest = columnOrCall first rest := by
  have partsSuffix := isSuffix_optionalParts rest
  rw [columnOrCallTurn, columnOrCall_eq]
  simp only [List.getLast_eq_getLastD]
  generalize Grammar.optionalParts rest = parts at partsSuffix ⊢
  obtain ⟨parts, after⟩ := parts
  have argumentsSuffix : after.tail <:+ rest := (List.tail_suffix after).trans partsSuffix
  dsimp only
  rw [callArgumentsTurn_eq (agrees.mono argumentsSuffix)]

theorem subjectTurn_eq (agrees : AgreesFrom tokens further) :
    subjectTurn further tokens = subject tokens := by
  rw [subjectTurn, subject_eq, agrees expression tokens List.suffix_rfl]
  rfl

theorem otherwiseTurn_eq (agrees : AgreesFrom tokens further) :
    otherwiseTurn further tokens = otherwise tokens := by
  cases tokens with
  | nil => rw [otherwise_nil, otherwiseTurn]
  | cons token rest =>
    rw [otherwise_cons, otherwiseTurn, agrees expression rest (List.suffix_cons token rest)]
    rfl

theorem whenClauseTurn_eq (agrees : AgreesAfter tokens further) :
    whenClauseTurn further tokens = Grammar.whenClauses tokens := by
  cases tokens with
  | nil => rw [whenClauses_nil, whenClauseTurn]
  | cons token rest =>
    have agrees := agrees.tail
    rw [whenClauses_cons, whenClauseTurn, agrees expression rest List.suffix_rfl]
    congr 1
    refine bind_congr_ok ?_
    rintro ⟨condition, afterCondition⟩ conditionFound
    have conditionSuffix := isSuffix_of_expression conditionFound
    refine bind_congr_ok fun afterThen thenFound => ?_
    have thenSuffix := (isSuffix_of_expectWord thenFound).trans conditionSuffix
    rw [agrees expression afterThen thenSuffix]
    refine bind_congr_ok ?_
    rintro ⟨value, afterValue⟩ valueFound
    dsimp only
    rw [agrees whenClauses afterValue ((isSuffix_of_expression valueFound).trans thenSuffix)]
    rfl

theorem operandTurn_eq (agrees : AgreesAfter tokens further) :
    operandTurn further tokens = Grammar.operand tokens := by
  cases tokens with
  | nil => rw [operand_nil, operandTurn]
  | cons token rest =>
    have agrees := agrees.tail
    rw [operand_cons, operandTurn, columnOrCallTurn_eq agrees, subjectTurn_eq agrees,
      agrees expression rest List.suffix_rfl, agrees operand rest List.suffix_rfl]
    cases token.kind.literal? with
    | some kind => rfl
    | none =>
      dsimp only
      cases token.kind
      case word =>
        dsimp only
        congr 2
        -- only here something is read after a further turn
        refine bind_congr_ok ?_
        rintro ⟨subject, afterSubject⟩ subjectFound
        have subjectSuffix := isSuffix_of_subject subjectFound
        dsimp only
        rw [agrees whenClauses afterSubject subjectSuffix]
        refine bind_congr_ok ?_
        rintro ⟨clauses, afterClauses⟩ clausesFound
        have clausesSuffix := (isSuffix_of_whenClauses clausesFound).trans subjectSuffix
        dsimp only
        rw [otherwiseTurn_eq (agrees.mono clausesSuffix)]
      all_goals rfl

theorem expressionTurn_eq (agrees : AgreesAfter tokens further) :
    expressionTurn further tokens = Grammar.expression tokens := by
  rw [expressionTurn, operandTurn_eq agrees]
  exact (expression_eq tokens).symm

theorem expressionsTurn_eq (agrees : AgreesAfter tokens further) :
    expressionsTurn further tokens = Grammar.expressions tokens := by
  rw [expressionsTurn, expressions_eq, expressionTurn_eq agrees]
  refine bind_congr_ok ?_
  rintro ⟨first, after⟩ found
  dsimp only
  split
  · rename_i isComma
    have isLater : IsLater after.tail tokens :=
      (IsLater.tail isComma).of_isLater_of_suffix (isSuffix_of_expression found)
    rw [agrees expressions after.tail isLater]
    rfl
  · rfl

/-! ## Elements -/

theorem itemTurn_eq {α : Type} {step : Step α} (progresses : step.Progresses)
    (items : ∀ {value rest}, step tokens = .ok (some (value, rest)) → rest <:+ tokens)
    {others : List Token → Except Refusal (List α × List Token)}
    (agrees : ∀ rest, IsLater rest tokens → others rest = many step progresses rest) :
    itemTurn step others tokens = many step progresses tokens := by
  rw [itemTurn]
  cases found : step tokens with
  | error refusal => exact (many_of_error found).symm
  | ok item =>
    cases item with
    | none => exact (many_of_none found).symm
    | some item =>
      obtain ⟨value, rest⟩ := item
      rw [many_of_some found, ← agrees rest ⟨items found, progresses found⟩]
      rfl

theorem elementTurn_eq (agrees : AgreesAfter tokens further) :
    elementTurn further tokens = Grammar.tableElements tokens := by
  rw [elementTurn, Grammar.tableElements.eq_def]
  cases found : tableElement tokens with
  | error refusal => rfl
  | ok element =>
    obtain ⟨nodes, rest⟩ := element
    change (if nextIs .comma rest = true then _ else _) = if nextIs .comma rest = true then _ else _
    split
    · rename_i isComma
      have isLater : IsLater rest.tail tokens :=
        (IsLater.tail isComma).of_isLater_of_suffix (isSuffix_of_tableElement found)
      rw [agrees tableElements rest.tail isLater]
      change (if _ then _ else Grammar.tableElements rest.tail >>= _) = _
      cases Grammar.tableElements rest.tail <;> rfl
    · rfl

theorem indexedColumnTurn_eq (agrees : AgreesAfter tokens further) :
    indexedColumnTurn further tokens = Grammar.indexedColumns tokens := by
  rw [indexedColumnTurn, indexedColumns_eq]
  refine bind_congr_ok ?_
  rintro ⟨column, rest⟩ found
  dsimp only
  split
  · rename_i isComma
    have isLater : IsLater (dropDirection rest).tail tokens :=
      (IsLater.tail isComma).of_isLater_of_suffix
        ((isSuffix_dropDirection rest).trans (isSuffix_of_name found))
    rw [agrees indexedColumns _ isLater]
    rfl
  · rfl

/-! ## Names and types -/

theorem tableNameTurn_eq (agrees : AgreesAfter tokens further) :
    tableNameTurn further tokens = tableNameParts tokens := by
  rcases tokens with _ | ⟨dot, _ | ⟨part, tail⟩⟩
  · rfl
  · rfl
  · have agrees := agrees.tail
    rw [tableNameTurn, tableNameParts, agrees tableName (part :: tail) List.suffix_rfl,
      agrees tableName tail (List.suffix_cons part tail)]
    dsimp only [read]
    cases tableNameParts (part :: tail) <;> cases tableNameParts tail <;> rfl

theorem dottedPartTurn_eq (agrees : AgreesAfter tokens further) :
    dottedPartTurn further tokens = Grammar.dottedParts tokens := by
  rcases tokens with _ | ⟨dot, _ | ⟨part, tail⟩⟩
  · rfl
  · rfl
  · rw [dottedPartTurn, Grammar.dottedParts,
      agrees.tail dottedParts tail (List.suffix_cons part tail)]
    dsimp only [read]
    cases Grammar.dottedParts tail <;> rfl

theorem optionalPartTurn_eq (agrees : AgreesAfter tokens further) :
    optionalPartTurn further tokens = Grammar.optionalParts tokens := by
  rcases tokens with _ | ⟨dot, _ | ⟨part, tail⟩⟩
  · rfl
  · rfl
  · rw [optionalPartTurn, Grammar.optionalParts,
      agrees.tail optionalParts tail (List.suffix_cons part tail)]
    rfl

theorem typeArgumentTurn_eq (agrees : AgreesAfter tokens further) :
    typeArgumentTurn further tokens = typeArgumentList? tokens := by
  rcases tokens with _ | ⟨token, _ | ⟨separator, rest⟩⟩
  · rfl
  · rfl
  · rw [typeArgumentTurn, typeArgumentList?,
      agrees.tail typeArguments rest (List.suffix_cons separator rest)]
    rfl

/-! ## What is passed over -/

theorem closeGroupTurn_eq (agrees : AgreesAfter tokens further) (depth : Nat) :
    closeGroupTurn further depth tokens = Grammar.closeGroup depth tokens := by
  cases tokens with
  | nil => rfl
  | cons token rest =>
    have agrees (depth : Nat) := agrees.tail (closeGroup depth) rest List.suffix_rfl
    simp only [closeGroupTurn, Grammar.closeGroup, agrees]
    rfl

theorem skipElementTurn_eq (agrees : AgreesAfter tokens further) (depth : Nat) :
    skipElementTurn further depth tokens = Grammar.skipElement depth tokens := by
  cases tokens with
  | nil => rfl
  | cons token rest =>
    have agrees (depth : Nat) := agrees.tail (skipElement depth) rest List.suffix_rfl
    simp only [skipElementTurn, Grammar.skipElement, agrees]
    rfl

theorem skipUnknownOptionTurn_eq (agrees : AgreesAfter tokens further) (depth : Nat) :
    skipUnknownOptionTurn further depth tokens = Grammar.skipUnknownOption depth tokens := by
  cases tokens with
  | nil => rfl
  | cons token rest =>
    have agrees (depth : Nat) := agrees.tail (skipUnknownOption depth) rest List.suffix_rfl
    simp only [skipUnknownOptionTurn, Grammar.skipUnknownOption, agrees]
    rfl

theorem skipStatementTurn_eq (agrees : AgreesAfter tokens further) (depth : Nat) :
    skipStatementTurn further depth tokens = Grammar.skipStatement depth tokens := by
  cases tokens with
  | nil => rfl
  | cons token rest =>
    have agrees (depth : Nat) := agrees.tail (skipStatement depth) rest List.suffix_rfl
    simp only [skipStatementTurn, Grammar.skipStatement, agrees]
    rfl

theorem skipModuleTurn_eq (agrees : AgreesAfter tokens further) :
    skipModuleTurn further tokens = tokens.dropWhile (!·.endsBatch) := by
  cases tokens with
  | nil => rfl
  | cons token rest =>
    rw [skipModuleTurn, agrees.tail skipModule rest List.suffix_rfl, List.dropWhile_cons]
    cases token.endsBatch <;> rfl

theorem skipChainTurn_eq (agrees : AgreesAfter tokens further) (depth : Nat) (before : Token) :
    skipChainTurn further depth before tokens = Grammar.skipChain depth before tokens := by
  cases tokens with
  | nil => rfl
  | cons token rest =>
    rw [skipChainTurn, Grammar.skipChain, agrees.tail (skipChain _ token) rest List.suffix_rfl]
    rfl

/-! ## Statements -/

theorem statementTurn_eq (agrees : AgreesAfter tokens further) (defaultSchema : String) :
    statementTurn further defaultSchema tokens = Grammar.statements defaultSchema tokens := by
  cases tokens with
  | nil => exact (statements_nil defaultSchema).symm
  | cons token rest =>
    rw [statementTurn, statements_cons]
    dsimp only
    rw [agrees.tail (statements defaultSchema) rest List.suffix_rfl,
      agrees.tail (statements defaultSchema) _ (isSuffix_dropBatchCount rest),
      agrees.tail (statements defaultSchema) _ (isSuffix_afterStatement token rest)]
    congr 3
    refine bind_congr_ok ?_
    rintro ⟨statement, after⟩ found
    dsimp only
    rw [agrees (statements defaultSchema) after
      ⟨isSuffix_of_createTable found, length_of_createTable found⟩]
    rfl

end Loop

open Loop

/-- A turn needs the turns after it only at later tokens: it is right whatever readers stand in for
them, as long as these are right there. -/
theorem turn_eq_read (loop : Loop) {tokens : List Token} {further : Readers}
    (agrees : AgreesAfter tokens further) : turn further loop tokens = read loop tokens := by
  cases loop with
  | statements defaultSchema => exact statementTurn_eq agrees defaultSchema
  | skipStatement depth => exact skipStatementTurn_eq agrees depth
  | skipModule => exact skipModuleTurn_eq agrees
  | tableName => exact tableNameTurn_eq agrees
  | tableElements => exact elementTurn_eq agrees
  | tableOptions =>
    exact itemTurn_eq progresses_tableOption? isSuffix_of_tableOption? (agrees .tableOptions)
  | columnOptions =>
    exact itemTurn_eq progresses_columnOption? isSuffix_of_columnOption? (agrees .columnOptions)
  | skipElement depth => exact skipElementTurn_eq agrees depth
  | skipUnknownOption depth => exact skipUnknownOptionTurn_eq agrees depth
  | indexedColumns => exact indexedColumnTurn_eq agrees
  | indexOptions =>
    exact itemTurn_eq progresses_indexOption? isSuffix_of_indexOption? (agrees .indexOptions)
  | referenceOptions =>
    exact itemTurn_eq progresses_referenceOption? isSuffix_of_referenceOption?
      (agrees .referenceOptions)
  | dottedParts => exact dottedPartTurn_eq agrees
  | typeArguments => exact typeArgumentTurn_eq agrees
  | closeGroup depth => exact closeGroupTurn_eq agrees depth
  | expression => exact expressionTurn_eq agrees
  | operand => exact operandTurn_eq agrees
  | optionalParts => exact optionalPartTurn_eq agrees
  | expressions => exact expressionsTurn_eq agrees
  | whenClauses => exact whenClauseTurn_eq agrees
  | skipChain depth before => exact skipChainTurn_eq agrees depth before

/-- As many turns as there are tokens, and one more, are enough for a loop to end. -/
theorem unroll_eq_read (cutOff : Readers) {turns : Nat} (loop : Loop) {tokens : List Token}
    (enough : tokens.length < turns) : unroll cutOff turns loop tokens = read loop tokens := by
  induction turns generalizing loop tokens with
  | zero => cases enough
  | succ turns induction =>
    refine turn_eq_read loop fun later rest isLater => induction later ?_
    exact Nat.lt_of_lt_of_le isLater.2 (Nat.le_of_lt_succ enough)

/-- What a loop leaves is the end of its tokens. -/
theorem isSuffix_of_rest? (loop : Loop) {tokens rest : List Token}
    (left : loop.rest? (read loop tokens) = some rest) : rest <:+ tokens := by
  have split {α : Type} {result : Except Refusal (α × List Token)}
      (left : result.toOption.map Prod.snd = some rest) : ∃ value, result = .ok (value, rest) := by
    obtain ⟨⟨value, after⟩, found, same⟩ := exists_of_toOption_map left
    cases same
    exact ⟨value, found⟩
  cases loop with
  | statements defaultSchema =>
    obtain ⟨_, _, same⟩ := exists_of_toOption_map left
    cases same
    exact List.nil_suffix
  | skipStatement depth =>
    cases left
    exact isSuffix_skipStatement depth tokens
  | skipModule =>
    cases left
    exact List.dropWhile_suffix _
  | skipChain depth before =>
    cases left
    exact isSuffix_skipChain depth before tokens
  | skipElement depth => exact isSuffix_of_skipElement (toOption_eq_some.mp left)
  | skipUnknownOption depth => exact isSuffix_of_skipUnknownOption (toOption_eq_some.mp left)
  | closeGroup depth => exact isSuffix_of_closeGroup (toOption_eq_some.mp left)
  | tableName => exact isSuffix_of_tableNameParts (split left).choose_spec
  | dottedParts => exact isSuffix_of_dottedParts (split left).choose_spec
  | optionalParts =>
    cases left
    exact isSuffix_optionalParts tokens
  | typeArguments =>
    obtain ⟨⟨arguments, after⟩, found, same⟩ := Option.map_eq_some_iff.mp left
    cases same
    exact isSuffix_of_typeArgumentList? found
  | tableOptions => exact isSuffix_of_many isSuffix_of_tableOption? (split left).choose_spec
  | referenceOptions => exact isSuffix_of_many isSuffix_of_referenceOption? (split left).choose_spec
  | columnOptions => exact isSuffix_of_many isSuffix_of_columnOption? (split left).choose_spec
  | indexOptions => exact isSuffix_of_many isSuffix_of_indexOption? (split left).choose_spec
  | tableElements => exact isSuffix_of_tableElements (split left).choose_spec
  | indexedColumns => exact isSuffix_of_indexedColumns (split left).choose_spec
  | expressions => exact isSuffix_of_expressions (split left).choose_spec
  | expression => exact isSuffix_of_expression (split left).choose_spec
  | operand => exact isSuffix_of_operand (split left).choose_spec
  | whenClauses => exact isSuffix_of_whenClauses (split left).choose_spec

end SqlSchema.Grammar
