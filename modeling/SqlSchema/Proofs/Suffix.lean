import SqlSchema.Proofs.Parallel.Element

/-!
Reading forward. What a reader leaves is the end of what it was given: it passes tokens over one
after the other and puts none back.
-/

namespace SqlSchema.Grammar

variable {tokens rest : List Token}

attribute [local grind →] List.IsSuffix.trans
attribute [local grind ←] List.tail_suffix List.drop_suffix
attribute [local grind =] List.suffix_cons_iff

@[grind →] theorem isSuffix_of_tail (isSuffix : rest <:+ tokens.tail) : rest <:+ tokens :=
  isSuffix.trans (List.tail_suffix tokens)

@[grind →] theorem isSuffix_of_drop {count : Nat} (isSuffix : rest <:+ tokens.drop count) :
    rest <:+ tokens :=
  isSuffix.trans (List.drop_suffix count tokens)

/-! ## Groups and names -/

theorem isSuffix_dropWord (keyword : String) (tokens : List Token) :
    dropWord keyword tokens <:+ tokens := by
  unfold dropWord
  grind

@[grind →] theorem isSuffix_of_expectWord {keyword : String}
    (found : expectWord keyword tokens = .ok rest) : rest <:+ tokens := by
  unfold expectWord at found
  grind [refuse]

@[grind →] theorem isSuffix_of_expectRightParen (found : expectRightParen tokens = .ok rest) :
    rest <:+ tokens := by
  unfold expectRightParen at found
  grind [refuse]

@[grind →] theorem isSuffix_of_name {text : String} (found : name tokens = .ok (text, rest)) :
    rest <:+ tokens := by
  unfold name at found
  grind [refuse]

@[grind →] theorem isSuffix_of_closeGroup {depth : Nat}
    (found : closeGroup depth tokens = .ok rest) : rest <:+ tokens := by
  fun_induction closeGroup depth tokens <;> grind [refuse]

@[grind →] theorem isSuffix_of_skipGroup (found : skipGroup tokens = .ok rest) :
    rest <:+ tokens := by
  unfold skipGroup at found
  grind [refuse]

@[grind →] theorem isSuffix_of_skipOptionalGroup (found : skipOptionalGroup tokens = .ok rest) :
    rest <:+ tokens := by
  unfold skipOptionalGroup at found
  grind

@[grind →] theorem isSuffix_of_skipElement {depth : Nat}
    (found : skipElement depth tokens = .ok rest) : rest <:+ tokens := by
  fun_induction skipElement depth tokens <;> grind [refuse]

@[grind →] theorem isSuffix_of_skipUnknownOption {depth : Nat}
    (found : skipUnknownOption depth tokens = .ok rest) : rest <:+ tokens := by
  fun_induction skipUnknownOption depth tokens <;> grind [refuse]

@[grind →] theorem isSuffix_of_unknownOption (found : unknownOption tokens = .ok rest) :
    rest <:+ tokens := by
  cases tokens with
  | nil => grind [unknownOption]
  | cons token tail => grind [unknownOption]

theorem isSuffix_skipChain (depth : Nat) (before : Token) (tokens : List Token) :
    skipChain depth before tokens <:+ tokens := by
  fun_induction skipChain depth before tokens <;> grind

theorem isSuffix_of_afterOperators? (found : afterOperators? tokens = some rest) :
    rest <:+ tokens := by
  cases tokens with
  | nil => cases found
  | cons token tail => grind [afterOperators?, isSuffix_skipChain]

@[grind →] theorem isSuffix_of_dottedParts {parts : List String}
    (found : dottedParts tokens = .ok (parts, rest)) : rest <:+ tokens := by
  fun_induction dottedParts tokens generalizing parts <;> grind [refuse]

theorem isSuffix_optionalParts (tokens : List Token) : (optionalParts tokens).2 <:+ tokens := by
  fun_induction optionalParts tokens <;> grind

@[grind →] theorem isSuffix_of_typeArgumentList? {arguments : List (Option UInt32)}
    (found : typeArgumentList? tokens = some (arguments, rest)) : rest <:+ tokens := by
  fun_induction typeArgumentList? tokens generalizing arguments <;>
    grind [Option.map_eq_some_iff]

@[grind →] theorem isSuffix_of_typeGroup {numbers : List UInt32} {isMaximum : Bool}
    (found : typeGroup tokens = .ok (numbers, isMaximum, rest)) : rest <:+ tokens := by
  unfold typeGroup typeArguments? at found
  grind

@[grind →] theorem isSuffix_of_dataType {type : DataType}
    (found : dataType tokens = .ok (type, rest)) : rest <:+ tokens := by
  simp only [dataType, bind, Except.bind] at found
  grind

/-! ## Expressions -/

mutual

theorem isSuffix_of_operand {tokens rest : List Token} {node : Node}
    (found : operand tokens = .ok (node, rest)) : rest <:+ tokens := by
  match tokens, found with
  | [], found =>
    rw [operand_nil] at found
    cases found
  | token :: tail, found =>
    rw [operand_cons] at found
    split at found
    · grind
    split at found
    · exact isSuffix_of_parenthesized found
    · grind
    · split at found
      · obtain ⟨⟨inner, after⟩, innerFound, equal⟩ := bind_eq_ok.mp found
        have innerSuffix := isSuffix_of_operand innerFound
        grind
      · cases found
    · split at found
      · grind
      split at found
      · exact isSuffix_of_caseOf found
      split at found
      · obtain ⟨⟨inner, after⟩, innerFound, equal⟩ := bind_eq_ok.mp found
        have innerSuffix := isSuffix_of_expression innerFound
        grind
      split at found
      · grind
      · exact isSuffix_of_columnOrCall found
    · exact isSuffix_of_columnOrCall found
    · cases found
termination_by 4 * tokens.length
decreasing_by all_goals simp only [List.length_cons]; omega

theorem isSuffix_of_parenthesized {first : Token} {tokens rest : List Token} {node : Node}
    (found : parenthesized first tokens = .ok (node, rest)) : rest <:+ first :: tokens := by
  unfold parenthesized at found
  split at found
  · obtain ⟨after, closed, equal⟩ := bind_eq_ok.mp found
    grind
  · obtain ⟨⟨inner, after⟩, innerFound, found⟩ := bind_eq_ok.mp found
    obtain ⟨_, closed, equal⟩ := bind_eq_ok.mp found
    have innerSuffix := isSuffix_of_expression innerFound
    grind
termination_by 4 * tokens.length + 2

theorem isSuffix_of_caseOf {first : Token} {tokens rest : List Token} {node : Node}
    (found : caseOf first tokens = .ok (node, rest)) : rest <:+ first :: tokens := by
  obtain ⟨⟨value, afterValue⟩, valueFound, found⟩ := bind_eq_ok.mp found
  have valueShorter := length_of_subject valueFound
  obtain ⟨⟨clauses, afterClauses⟩, clausesFound, found⟩ := bind_eq_ok.mp found
  have clausesShorter := length_of_whenClauses clausesFound
  obtain ⟨⟨default, afterDefault⟩, defaultFound, found⟩ := bind_eq_ok.mp found
  obtain ⟨after, ended, equal⟩ := bind_eq_ok.mp found
  cases equal
  have valueSuffix := isSuffix_of_subject valueFound
  have clausesSuffix := (isSuffix_of_whenClauses clausesFound).trans valueSuffix
  have defaultSuffix := (isSuffix_of_otherwise defaultFound).trans clausesSuffix
  have endSuffix := (isSuffix_of_expectWord ended).trans defaultSuffix
  exact endSuffix.trans (List.suffix_cons first tokens)
termination_by 4 * tokens.length + 3
decreasing_by all_goals omega

theorem isSuffix_of_columnOrCall {first : Token} {tokens rest : List Token} {node : Node}
    (found : columnOrCall first tokens = .ok (node, rest)) : rest <:+ first :: tokens := by
  obtain ⟨parts, after, equation⟩ : ∃ parts after, optionalParts tokens = (parts, after) :=
    ⟨_, _, rfl⟩
  have partsSuffix : after <:+ first :: tokens := by
    simpa [equation] using (isSuffix_optionalParts tokens).trans (List.suffix_cons first tokens)
  have partsShorter : after.length ≤ tokens.length := by
    simpa [equation] using length_optionalParts_le tokens
  rw [columnOrCall_eq, equation] at found
  dsimp only at found
  split at found
  · rename_i isCall
    have shorter := length_tail_of_nextIs isCall
    split at found
    · split at found
      · obtain ⟨_, skipped, equal⟩ := bind_eq_ok.mp found
        grind
      split at found
      · obtain ⟨_, skipped, equal⟩ := bind_eq_ok.mp found
        grind
      · obtain ⟨⟨arguments, afterArguments⟩, argumentsFound, found⟩ := bind_eq_ok.mp found
        obtain ⟨_, closed, equal⟩ := bind_eq_ok.mp found
        have argumentsSuffix := isSuffix_of_callArguments argumentsFound
        grind
    · obtain ⟨_, skipped, equal⟩ := bind_eq_ok.mp found
      grind
  · grind
termination_by 4 * tokens.length + 3
decreasing_by omega

theorem isSuffix_of_callArguments {typeFirst : Bool} {tokens rest : List Token}
    {nodes : List Node} (found : callArguments typeFirst tokens = .ok (nodes, rest)) :
    rest <:+ tokens := by
  rw [callArguments_eq] at found
  split at found
  · grind
  split at found
  · obtain ⟨⟨type, after⟩, typeFound, found⟩ := bind_eq_ok.mp found
    have typeShorter := length_of_dataType typeFound
    dsimp only at found
    split at found
    · rename_i goesOn
      have shorter := length_tail_of_nextIs goesOn
      obtain ⟨⟨arguments, _⟩, argumentsFound, equal⟩ := bind_eq_ok.mp found
      have argumentsSuffix := isSuffix_of_expressions argumentsFound
      grind
    · grind
  · exact isSuffix_of_expressions found
termination_by 4 * tokens.length + 3
decreasing_by all_goals omega

theorem isSuffix_of_expressions {tokens rest : List Token} {nodes : List Node}
    (found : expressions tokens = .ok (nodes, rest)) : rest <:+ tokens := by
  rw [expressions_eq] at found
  obtain ⟨⟨first, after⟩, firstFound, found⟩ := bind_eq_ok.mp found
  have firstShorter := length_of_expression firstFound
  have firstSuffix := isSuffix_of_expression firstFound
  dsimp only at found
  split at found
  · rename_i goesOn
    have shorter := length_tail_of_nextIs goesOn
    obtain ⟨⟨others, _⟩, othersFound, equal⟩ := bind_eq_ok.mp found
    have othersSuffix := isSuffix_of_expressions othersFound
    grind
  · grind
termination_by 4 * tokens.length + 2
decreasing_by all_goals omega

theorem isSuffix_of_expression {tokens rest : List Token} {node : Node}
    (found : expression tokens = .ok (node, rest)) : rest <:+ tokens := by
  rw [expression_eq] at found
  obtain ⟨⟨first, after⟩, firstFound, found⟩ := bind_eq_ok.mp found
  have firstSuffix := isSuffix_of_operand firstFound
  dsimp only at found
  split at found
  · grind
  · rename_i skipped
    cases found
    exact (isSuffix_of_afterOperators? skipped).trans firstSuffix
termination_by 4 * tokens.length + 1
decreasing_by omega

theorem isSuffix_of_subject {tokens rest : List Token} {node : Option Node}
    (found : subject tokens = .ok (node, rest)) : rest <:+ tokens := by
  rw [subject_eq] at found
  split at found
  · grind
  · obtain ⟨⟨first, after⟩, firstFound, equal⟩ := bind_eq_ok.mp found
    have firstSuffix := isSuffix_of_expression firstFound
    grind
termination_by 4 * tokens.length + 2
decreasing_by omega

theorem isSuffix_of_whenClauses {tokens rest : List Token} {clauses : List WhenClause}
    (found : whenClauses tokens = .ok (clauses, rest)) : rest <:+ tokens := by
  match tokens, found with
  | [], found =>
    rw [whenClauses_nil] at found
    grind
  | token :: tail, found =>
    rw [whenClauses_cons] at found
    split at found
    · obtain ⟨⟨condition, afterCondition⟩, conditionFound, found⟩ := bind_eq_ok.mp found
      have conditionShorter := length_of_expression conditionFound
      obtain ⟨afterThen, thenFound, found⟩ := bind_eq_ok.mp found
      have thenShorter := length_of_expectWord thenFound
      obtain ⟨⟨value, afterValue⟩, valueFound, found⟩ := bind_eq_ok.mp found
      have valueShorter := length_of_expression valueFound
      obtain ⟨⟨others, afterOthers⟩, othersFound, equal⟩ := bind_eq_ok.mp found
      cases equal
      have conditionSuffix := isSuffix_of_expression conditionFound
      have thenSuffix := (isSuffix_of_expectWord thenFound).trans conditionSuffix
      have valueSuffix := (isSuffix_of_expression valueFound).trans thenSuffix
      have othersSuffix := (isSuffix_of_whenClauses othersFound).trans valueSuffix
      exact othersSuffix.trans (List.suffix_cons token tail)
    · grind
termination_by 4 * tokens.length
decreasing_by all_goals simp only [List.length_cons]; omega

theorem isSuffix_of_otherwise {tokens rest : List Token} {node : Option Node}
    (found : otherwise tokens = .ok (node, rest)) : rest <:+ tokens := by
  match tokens, found with
  | [], found =>
    rw [otherwise_nil] at found
    grind
  | token :: tail, found =>
    rw [otherwise_cons] at found
    split at found
    · obtain ⟨⟨value, after⟩, valueFound, equal⟩ := bind_eq_ok.mp found
      have valueSuffix := isSuffix_of_expression valueFound
      grind
    · grind
termination_by 4 * tokens.length
decreasing_by simp only [List.length_cons]; omega

end

attribute [grind →] isSuffix_of_expression

/-! ## Constraints and columns -/

theorem isSuffix_of_many {α : Type} {step : Step α} {progresses : step.Progresses}
    (items : ∀ {tokens value rest}, step tokens = .ok (some (value, rest)) → rest <:+ tokens)
    {values : List α} (found : many step progresses tokens = .ok (values, rest)) :
    rest <:+ tokens := by
  fun_induction many step progresses tokens generalizing values rest with
  | case1 => cases found
  | case2 tokens none =>
    cases found
    exact List.suffix_rfl
  | case3 => cases found
  | case4 tokens value next item values' rest' equation induction =>
    cases found
    exact (induction equation).trans (items item)

theorem isSuffix_dropNotForReplication (tokens : List Token) :
    dropNotForReplication tokens <:+ tokens := by
  unfold dropNotForReplication
  grind

theorem isSuffix_dropDirection (tokens : List Token) : dropDirection tokens <:+ tokens := by
  unfold dropDirection
  grind

theorem isSuffix_dropIndexKind (tokens : List Token) : dropIndexKind tokens <:+ tokens := by
  unfold dropIndexKind
  grind [isSuffix_dropWord]

@[grind →] theorem isSuffix_of_indexedColumns {nodes : List Node}
    (found : indexedColumns tokens = .ok (nodes, rest)) : rest <:+ tokens := by
  fun_induction indexedColumns tokens generalizing nodes rest <;> grind

@[grind →] theorem isSuffix_of_bareIndexOption (found : bareIndexOption tokens = .ok rest) :
    rest <:+ tokens := by
  obtain ⟨⟨label, after⟩, named, equal⟩ := bind_eq_ok.mp found
  have nameSuffix := isSuffix_of_name named
  cases equal
  split
  · exact (List.drop_suffix 2 after).trans nameSuffix
  · exact (List.drop_suffix 1 after).trans nameSuffix

@[grind →] theorem isSuffix_of_indexOption? {node : Node}
    (found : indexOption? tokens = .ok (some (node, rest))) : rest <:+ tokens := by
  simp only [indexOption?, bind, Except.bind] at found
  grind

@[grind →] theorem isSuffix_of_keyTail {nodes : List Node}
    (found : keyTail tokens = .ok (nodes, rest)) : rest <:+ tokens := by
  have kindSuffix := isSuffix_dropIndexKind tokens
  unfold keyTail at found
  dsimp only at found
  split at found <;> obtain ⟨⟨columns, afterColumns⟩, columnsFound, found⟩ := bind_eq_ok.mp found
  all_goals
    obtain ⟨⟨options, _⟩, optionsFound, equal⟩ := bind_eq_ok.mp found
    have optionsSuffix := isSuffix_of_many isSuffix_of_indexOption? optionsFound
    grind

@[grind →] theorem isSuffix_of_referenceAction (found : referenceAction tokens = .ok rest) :
    rest <:+ tokens := by
  unfold referenceAction at found
  grind

theorem isSuffix_of_referenceOption? {value : Unit}
    (found : referenceOption? tokens = .ok (some (value, rest))) : rest <:+ tokens := by
  simp only [referenceOption?, bind, Except.bind] at found
  grind

@[grind →] theorem isSuffix_of_referencesTail (found : referencesTail tokens = .ok rest) :
    rest <:+ tokens := by
  obtain ⟨⟨label, afterLabel⟩, labelFound, found⟩ := bind_eq_ok.mp found
  obtain ⟨⟨parts, afterParts⟩, partsFound, found⟩ := bind_eq_ok.mp found
  obtain ⟨afterColumns, skipped, found⟩ := bind_eq_ok.mp found
  obtain ⟨⟨values, _⟩, optionsFound, equal⟩ := bind_eq_ok.mp found
  have optionsSuffix := isSuffix_of_many isSuffix_of_referenceOption? optionsFound
  grind

@[grind →] theorem isSuffix_of_constraintBody {start : List Token} {label : Option Node}
    {node : Node} (found : constraintBody start label tokens = .ok (node, rest)) :
    rest <:+ tokens := by
  unfold constraintBody at found
  dsimp only at found
  split at found
  · obtain ⟨afterWord, wordFound, found⟩ := bind_eq_ok.mp found
    obtain ⟨⟨children, _⟩, keyFound, equal⟩ := bind_eq_ok.mp found
    grind
  split at found
  · obtain ⟨⟨value, after⟩, valueFound, equal⟩ := bind_eq_ok.mp found
    have valuesSuffix := List.drop_suffix 2 after
    grind
  split at found
  · obtain ⟨⟨children, _⟩, keyFound, equal⟩ := bind_eq_ok.mp found
    grind
  split at found
  · obtain ⟨afterWord, wordFound, found⟩ := bind_eq_ok.mp found
    obtain ⟨afterColumns, columnsSkipped, found⟩ := bind_eq_ok.mp found
    obtain ⟨afterReferences, referencesFound, found⟩ := bind_eq_ok.mp found
    obtain ⟨_, tailFound, equal⟩ := bind_eq_ok.mp found
    grind
  split at found
  · obtain ⟨_, tailFound, equal⟩ := bind_eq_ok.mp found
    grind
  split at found
  · obtain ⟨_, skipped, equal⟩ := bind_eq_ok.mp found
    grind [isSuffix_dropNotForReplication]
  · cases found

@[grind →] theorem isSuffix_of_identifier {node : Node}
    (found : identifier tokens = .ok (node, rest)) : rest <:+ tokens := by
  simp only [identifier, bind, Except.bind] at found
  grind

@[grind →] theorem isSuffix_of_constraint {node : Node}
    (found : constraint tokens = .ok (node, rest)) : rest <:+ tokens := by
  simp only [constraint, bind, Except.bind] at found
  grind

theorem isSuffix_of_columnOption? {node : Node}
    (found : columnOption? tokens = .ok (some (node, rest))) : rest <:+ tokens := by
  have replicationSuffix := isSuffix_dropNotForReplication
  simp only [columnOption?, columnOption, Except.map, bind, Except.bind] at found
  grind

@[grind →] theorem isSuffix_of_columnOptions {nodes : List Node}
    (found : columnOptions tokens = .ok (nodes, rest)) : rest <:+ tokens :=
  isSuffix_of_many isSuffix_of_columnOption? found

@[grind →] theorem isSuffix_of_columnType {nodes : List Node}
    (found : columnType tokens = .ok (nodes, rest)) : rest <:+ tokens := by
  simp only [columnType, bind, Except.bind] at found
  grind

@[grind →] theorem isSuffix_of_column {node : Node} (found : column tokens = .ok (node, rest)) :
    rest <:+ tokens := by
  have persistedSuffix := isSuffix_dropWord "PERSISTED"
  simp only [column, bind, Except.bind] at found
  grind

/-! ## Elements -/

@[grind →] theorem isSuffix_of_unknownElement {typeName : String} {node : Node}
    (found : unknownElement typeName tokens = .ok (node, rest)) : rest <:+ tokens := by
  simp only [unknownElement, bind, Except.bind] at found
  grind

@[grind →] theorem isSuffix_of_tableElement {nodes : List Node}
    (found : tableElement tokens = .ok (nodes, rest)) : rest <:+ tokens := by
  simp only [tableElement, bind, Except.bind] at found
  grind [refuse]

/-- What follows the elements of a table is the end of the tokens they were read from. -/
theorem isSuffix_of_tableElements {nodes : List Node}
    (found : tableElements tokens = .ok (nodes, rest)) : rest <:+ tokens := by
  have tailSuffix := List.tail_suffix (α := Token)
  fun_induction tableElements tokens generalizing nodes rest <;> grind

theorem isSuffix_of_tableDefinition {definition : TableDefinition}
    (found : tableDefinition tokens = .ok (definition, rest)) : rest <:+ tokens := by
  unfold tableDefinition at found
  split at found
  · obtain ⟨⟨nodes, after⟩, nodesFound, found⟩ := bind_eq_ok.mp found
    obtain ⟨_, closed, equal⟩ := bind_eq_ok.mp found
    have nodesSuffix := isSuffix_of_tableElements nodesFound
    grind
  · cases found

theorem isSuffix_of_tableOption? {value : Unit}
    (found : tableOption? tokens = .ok (some (value, rest))) : rest <:+ tokens := by
  unfold tableOption? at found
  split at found
  · obtain ⟨after, skipped, equal⟩ := bind_eq_ok.mp found
    have labelSuffix := List.tail_suffix tokens.tail
    grind
  split at found
  · obtain ⟨after, skipped, equal⟩ := bind_eq_ok.mp found
    grind
  split at found
  · cases found
    exact List.drop_suffix 2 tokens
  · cases found

theorem isSuffix_of_tableOptions (found : tableOptions tokens = .ok rest) : rest <:+ tokens := by
  obtain ⟨⟨values, after⟩, read, equal⟩ := bind_eq_ok.mp found
  cases equal
  exact isSuffix_of_many isSuffix_of_tableOption? read

theorem isSuffix_of_tableNameParts {parts : List String}
    (found : tableNameParts tokens = .ok (parts, rest)) : rest <:+ tokens := by
  fun_induction tableNameParts tokens generalizing parts rest <;> grind [refuse]

theorem isSuffix_of_tableName {defaultSchema : String} {names : String × String}
    (found : tableName defaultSchema tokens = .ok (names, rest)) : rest <:+ tokens := by
  obtain ⟨⟨first, afterFirst⟩, firstFound, found⟩ := bind_eq_ok.mp found
  obtain ⟨⟨parts, afterParts⟩, partsFound, found⟩ := bind_eq_ok.mp found
  have partsSuffix := isSuffix_of_tableNameParts partsFound
  dsimp only at found
  split at found
  · cases found
    exact partsSuffix.trans (isSuffix_of_name firstFound)
  · cases found

/-- What follows a table is the end of the tokens it was read from. -/
theorem isSuffix_of_createTable {defaultSchema : String} {statement : CreateTable}
    (found : createTable defaultSchema tokens = .ok (statement, rest)) : rest <:+ tokens := by
  obtain ⟨⟨names, afterName⟩, nameFound, found⟩ := bind_eq_ok.mp found
  obtain ⟨⟨definition, afterDefinition⟩, definitionFound, found⟩ := bind_eq_ok.mp found
  obtain ⟨afterOptions, optionsFound, equal⟩ := bind_eq_ok.mp found
  cases equal
  have nameSuffix := (isSuffix_of_tableName nameFound).trans (List.drop_suffix 2 tokens)
  have definitionSuffix := (isSuffix_of_tableDefinition definitionFound).trans nameSuffix
  exact (isSuffix_of_tableOptions optionsFound).trans definitionSuffix

/-! ## Statements -/

theorem isSuffix_skipStatement (depth : Nat) (tokens : List Token) :
    skipStatement depth tokens <:+ tokens := by
  fun_induction skipStatement depth tokens <;> grind

theorem isSuffix_afterStatement (first : Token) (rest : List Token) :
    afterStatement first rest <:+ rest := by
  unfold afterStatement
  split
  · exact List.dropWhile_suffix _
  · exact isSuffix_skipStatement 0 rest

theorem isSuffix_dropBatchCount (tokens : List Token) : dropBatchCount tokens <:+ tokens := by
  cases tokens with
  | nil => exact List.suffix_rfl
  | cons token rest => grind [dropBatchCount]

end SqlSchema.Grammar
