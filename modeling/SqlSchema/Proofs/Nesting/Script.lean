import SqlSchema.Proofs.Heading
import SqlSchema.Proofs.Nesting.Expression

/-!
Nested texts of tables and scripts. Every reader of elements quotes runs of the tokens that it
reads, and so every text in the tree of a script is a part of the script that lies in the text around it.
-/

namespace SqlSchema

namespace Grammar

variable {tokens rest : List Token}

/-! ## Constraints -/

theorem nodesIn_of_many {step : Step Node} {progresses : step.Progresses}
    (items : ∀ {tokens node rest}, step tokens = .ok (some (node, rest)) → NodeIn node tokens rest)
    {nodes : List Node} (found : many step progresses tokens = .ok (nodes, rest)) :
    NodesIn nodes tokens rest := by
  fun_induction many step progresses tokens generalizing nodes rest with
  | case1 => cases found
  | case2 =>
    cases found
    exact .nil List.suffix_rfl
  | case3 => cases found
  | case4 tokens node next item nodes' rest' equation induction =>
    cases found
    exact (items item).append (induction equation)

theorem nodesIn_indexedColumns {tokens rest : List Token} {nodes : List Node}
    (found : indexedColumns tokens = .ok (nodes, rest)) : NodesIn nodes tokens rest := by
  rw [indexedColumns_eq] at found
  rcases bind_eq_ok.mp found with ⟨⟨column, afterName⟩, named, found⟩
  have directionShorter := length_dropDirection_le afterName
  have nameShorter := length_of_name named
  have columnShorter : (dropDirection afterName).length < tokens.length := by omega
  have columnSuffix := (isSuffix_dropDirection afterName).trans (isSuffix_of_name named)
  have columnIn : NodeIn (.indexedColumn column (Token.textTo tokens (dropDirection afterName)))
      tokens (dropDirection afterName) :=
    .leaf rfl columnSuffix columnShorter rfl
  dsimp only at found
  split at found
  · rename_i goesOn
    have shorter := length_tail_of_nextIs goesOn
    rcases bind_eq_ok.mp found with ⟨⟨others, _⟩, othersFound, equal⟩
    cases equal
    have othersIn := nodesIn_indexedColumns othersFound
    exact columnIn.append (othersIn.widen (List.tail_suffix _) List.suffix_rfl)
  · rcases bind_eq_ok.mp found with ⟨_, closed, equal⟩
    cases equal
    exact columnIn.widen List.suffix_rfl (isSuffix_of_expectRightParen closed)
termination_by tokens.length

theorem nodeIn_indexOption? {node : Node}
    (found : indexOption? tokens = .ok (some (node, rest))) : NodeIn node tokens rest := by
  have isSuffix := isSuffix_of_indexOption? found
  have shorter := progresses_indexOption? found
  unfold indexOption? at found
  dsimp only at found
  split at found
  · split at found <;> obtain ⟨_, _, equal⟩ := bind_eq_ok.mp found
    all_goals
      cases equal
      exact .leaf rfl isSuffix shorter rfl
  split at found
  · rcases bind_eq_ok.mp found with ⟨_, _, found⟩
    rcases bind_eq_ok.mp found with ⟨_, _, equal⟩
    cases equal
    exact .leaf rfl isSuffix shorter rfl
  · cases found

theorem nodesIn_keyTail {nodes : List Node} (found : keyTail tokens = .ok (nodes, rest)) :
    NodesIn nodes tokens rest := by
  have kindSuffix := isSuffix_dropIndexKind tokens
  have keyIn {columns options : List Node} {afterColumns : List Token}
      (columnsIn : NodesIn columns tokens afterColumns)
      (optionsFound : indexOptions afterColumns = .ok (options, rest)) :
      NodesIn (columns ++ options) tokens rest := by
    have optionsIn := nodesIn_of_many nodeIn_indexOption? optionsFound
    unfold NodesIn
    rw [List.map_append]
    exact columnsIn.append optionsIn
  unfold keyTail at found
  dsimp only at found
  split at found <;> obtain ⟨⟨columns, afterColumns⟩, columnsFound, found⟩ := bind_eq_ok.mp found
  all_goals
    rcases bind_eq_ok.mp found with ⟨⟨options, _⟩, optionsFound, equal⟩
    cases equal
  · have columnsIn := nodesIn_indexedColumns columnsFound
    exact keyIn (columnsIn.widen ((List.tail_suffix _).trans kindSuffix) List.suffix_rfl)
      optionsFound
  · cases columnsFound
    exact keyIn (.nil kindSuffix) optionsFound

theorem nodeIn_identifier {node : Node} (found : identifier tokens = .ok (node, rest)) :
    NodeIn node tokens rest := by
  have isSuffix := isSuffix_of_identifier found
  have shorter := length_of_identifier found
  rcases bind_eq_ok.mp found with ⟨_, _, equal⟩
  cases equal
  exact .leaf rfl isSuffix shorter rfl

/-- A constraint quotes what has been read since `start`, its name included. -/
theorem nodeIn_constraintBody {start : List Token} {label : Option Node} {node : Node}
    (labelIn : NodesIn label.toList start tokens)
    (found : constraintBody start label tokens = .ok (node, rest)) : NodeIn node start rest := by
  have startSuffix := labelIn.isSuffix
  have isSuffix := (isSuffix_of_constraintBody found).trans startSuffix
  have shorter := Nat.lt_of_lt_of_le (length_of_constraintBody found) startSuffix.length_le
  unfold constraintBody at found
  dsimp only at found
  split at found
  · rcases bind_eq_ok.mp found with ⟨afterWord, wordFound, found⟩
    rcases bind_eq_ok.mp found with ⟨⟨children, _⟩, keyFound, equal⟩
    cases equal
    have wordSuffix := (isSuffix_of_expectWord wordFound).trans (List.tail_suffix tokens)
    have childrenIn := (nodesIn_keyTail keyFound).widen wordSuffix List.suffix_rfl
    apply Nested.single shorter rfl
    change Nested ((label.toList ++ children).map .node) _ _
    rw [List.map_append]
    exact labelIn.append childrenIn
  split at found
  · rcases bind_eq_ok.mp found with ⟨_, _, equal⟩
    cases equal
    exact .leaf rfl isSuffix shorter rfl
  split at found
  · rcases bind_eq_ok.mp found with ⟨_, _, equal⟩
    cases equal
    exact .leaf rfl isSuffix shorter rfl
  split at found
  · rcases bind_eq_ok.mp found with ⟨_, _, found⟩
    rcases bind_eq_ok.mp found with ⟨_, _, found⟩
    rcases bind_eq_ok.mp found with ⟨_, _, found⟩
    rcases bind_eq_ok.mp found with ⟨_, _, equal⟩
    cases equal
    exact .leaf rfl isSuffix shorter rfl
  split at found
  · rcases bind_eq_ok.mp found with ⟨_, _, equal⟩
    cases equal
    exact .leaf rfl isSuffix shorter rfl
  split at found
  · rcases bind_eq_ok.mp found with ⟨_, _, equal⟩
    cases equal
    exact .leaf rfl isSuffix shorter rfl
  · cases found

theorem nodeIn_constraint {node : Node} (found : constraint tokens = .ok (node, rest)) :
    NodeIn node tokens rest := by
  unfold constraint at found
  split at found
  · rcases bind_eq_ok.mp found with ⟨⟨label, afterLabel⟩, labelFound, found⟩
    have labelIn := (nodeIn_identifier labelFound).widen (List.tail_suffix tokens) List.suffix_rfl
    have labelIn : NodesIn (some label).toList tokens afterLabel := labelIn
    exact nodeIn_constraintBody labelIn found
  · have noLabel : NodesIn (none : Option Node).toList tokens tokens := .nil List.suffix_rfl
    exact nodeIn_constraintBody noLabel found

/-! ## Columns -/

theorem nodeIn_columnOption? {node : Node}
    (found : columnOption? tokens = .ok (some (node, rest))) : NodeIn node tokens rest := by
  have isSuffix := isSuffix_of_columnOption? found
  have shorter := progresses_columnOption? found
  unfold columnOption? at found
  split at found
  · cases found
  rcases map_eq_ok.mp found with ⟨_, found, equal⟩
  cases equal
  unfold columnOption at found
  dsimp only at found
  split at found
  · rcases bind_eq_ok.mp found with ⟨_, _, equal⟩
    cases equal
    exact .leaf rfl isSuffix shorter rfl
  iterate 3
    split at found
    · cases found
      exact .leaf rfl isSuffix shorter rfl
  split at found
  · rcases bind_eq_ok.mp found with ⟨_, _, equal⟩
    cases equal
    exact .leaf rfl isSuffix shorter rfl
  split at found
  · exact nodeIn_constraint found
  · rcases bind_eq_ok.mp found with ⟨_, _, equal⟩
    cases equal
    exact .leaf rfl isSuffix shorter rfl

theorem nodesIn_columnOptions {nodes : List Node}
    (found : columnOptions tokens = .ok (nodes, rest)) : NodesIn nodes tokens rest :=
  nodesIn_of_many nodeIn_columnOption? found

theorem nodesIn_columnType {nodes : List Node} (found : columnType tokens = .ok (nodes, rest)) :
    NodesIn nodes tokens rest := by
  unfold columnType at found
  split at found
  · cases found
    exact .nil List.suffix_rfl
  · rcases bind_eq_ok.mp found with ⟨_, typeFound, equal⟩
    cases equal
    exact nodeIn_dataType typeFound

theorem nodeIn_column {node : Node} (found : column tokens = .ok (node, rest)) :
    NodeIn node tokens rest := by
  have shorter := length_of_column found
  rcases bind_eq_ok.mp found with ⟨⟨label, afterLabel⟩, labelFound, found⟩
  have labelIn := nodeIn_identifier labelFound
  dsimp only at found
  split at found
  · rcases bind_eq_ok.mp found with ⟨⟨value, afterValue⟩, valueFound, found⟩
    rcases bind_eq_ok.mp found with ⟨⟨options, _⟩, optionsFound, equal⟩
    cases equal
    have valueIn := (nodeIn_expression valueFound).widen (List.tail_suffix afterLabel)
      (isSuffix_dropWord "PERSISTED" afterValue)
    exact .single shorter rfl
      (labelIn.append (valueIn.append (nodesIn_columnOptions optionsFound)))
  · rcases bind_eq_ok.mp found with ⟨⟨type, afterType⟩, typeFound, found⟩
    rcases bind_eq_ok.mp found with ⟨⟨options, _⟩, optionsFound, equal⟩
    cases equal
    have inside := labelIn.append
      ((nodesIn_columnType typeFound).append (nodesIn_columnOptions optionsFound))
    apply Nested.single shorter rfl
    change Nested ((label :: type ++ options).map .node) _ _
    rw [List.map_append]
    exact inside

/-! ## Elements -/

/-- An element that does not end at once takes a token. -/
theorem length_of_skipElement_of_goesOn (goesOn : atElementEnd tokens = false)
    (found : skipElement 0 tokens = .ok rest) : rest.length < tokens.length := by
  cases tokens with
  | nil => cases goesOn
  | cons token tail =>
    simp only [atElementEnd, nextIs_cons, List.isEmpty_cons, Bool.false_or,
      Bool.or_eq_false_iff, beq_eq_false_iff_ne] at goesOn
    have shorter (depth : Nat) (further : skipElement depth tail = .ok rest) :
        rest.length < (token :: tail).length :=
      Nat.lt_succ_of_le (length_of_skipElement further)
    unfold skipElement at found
    split at found
    · exact absurd ‹_› goesOn.1
    · exact absurd ‹_› goesOn.2
    · exact shorter _ found
    · exact shorter _ found
    · exact shorter _ found

theorem nodeIn_unknownElement {typeName : String} {node : Node}
    (goesOn : atElementEnd tokens = false)
    (found : unknownElement typeName tokens = .ok (node, rest)) : NodeIn node tokens rest := by
  rcases bind_eq_ok.mp found with ⟨_, skipped, equal⟩
  cases equal
  exact .leaf rfl (isSuffix_of_skipElement skipped)
    (length_of_skipElement_of_goesOn goesOn skipped) rfl

theorem atElementEnd_of_nextIsWord {keyword : String} (isWord : nextIsWord keyword tokens = true) :
    atElementEnd tokens = false := by
  cases tokens with
  | nil => cases isWord
  | cons token tail =>
    have isKind : token.kind = .word := beq_iff_eq.mp (Bool.and_eq_true_iff.mp isWord).1
    simp [atElementEnd, nextIs_cons, isKind]

theorem nodesIn_tableElement {nodes : List Node}
    (found : tableElement tokens = .ok (nodes, rest)) : NodesIn nodes tokens rest := by
  unfold tableElement at found
  split at found
  · cases found
  split at found
  · rcases bind_eq_ok.mp found with ⟨⟨node, after⟩, nodeFound, found⟩
    have nodeIn := nodeIn_constraint nodeFound
    dsimp only at found
    split at found
    · cases found
      exact nodeIn
    · rename_i goesOn
      rcases bind_eq_ok.mp found with ⟨⟨option, _⟩, optionFound, equal⟩
      cases equal
      exact nodeIn.append (nodeIn_unknownElement (Bool.eq_false_iff.mpr goesOn) optionFound)
  dsimp only at found
  split at found
  · rename_i isIndex
    rcases bind_eq_ok.mp found with ⟨_, nodeFound, equal⟩
    cases equal
    exact nodeIn_unknownElement (atElementEnd_of_nextIsWord isIndex) nodeFound
  split at found
  · rename_i isPeriod
    rcases bind_eq_ok.mp found with ⟨_, nodeFound, equal⟩
    cases equal
    have isWord : nextIsWord "PERIOD" tokens = true := by
      cases tokens with
      | nil => cases isPeriod
      | cons first others => exact (Bool.and_eq_true_iff.mp isPeriod).1
    exact nodeIn_unknownElement (atElementEnd_of_nextIsWord isWord) nodeFound
  · rcases bind_eq_ok.mp found with ⟨_, nodeFound, equal⟩
    cases equal
    exact nodeIn_column nodeFound

theorem nodesIn_tableElements {nodes : List Node}
    (found : tableElements tokens = .ok (nodes, rest)) : NodesIn nodes tokens rest := by
  fun_induction tableElements tokens generalizing nodes rest with
  | case1 => cases found
  | case2 tokens first next element =>
    cases found
    exact (nodesIn_tableElement element).widen List.suffix_rfl (List.tail_suffix next)
  | case3 => cases found
  | case4 tokens first next element _ _ others rest' equation induction =>
    cases found
    have othersIn := (induction equation).widen (List.tail_suffix next) List.suffix_rfl
    unfold NodesIn
    rw [List.map_append]
    exact (nodesIn_tableElement element).append othersIn
  | case5 tokens first next element =>
    cases found
    exact nodesIn_tableElement element

/-! ## Statements -/

theorem nested_tableDefinition {definition : TableDefinition}
    (found : tableDefinition tokens = .ok (definition, rest)) :
    Nested [.definition definition] tokens rest := by
  have shorter := length_of_tableDefinition found
  unfold tableDefinition at found
  split at found
  · rcases bind_eq_ok.mp found with ⟨⟨children, after⟩, childrenFound, found⟩
    rcases bind_eq_ok.mp found with ⟨_, closed, equal⟩
    cases equal
    have childrenIn := nodesIn_tableElements childrenFound
    exact .single shorter rfl
      (childrenIn.widen (List.tail_suffix tokens) (isSuffix_of_expectRightParen closed))
  · cases found

theorem nested_createTable {defaultSchema : String} {statement : CreateTable}
    (found : createTable defaultSchema tokens = .ok (statement, rest)) :
    Nested [.statement (.createTable statement)] tokens rest := by
  have shorter := length_of_createTable found
  rcases bind_eq_ok.mp found with ⟨_, nameFound, found⟩
  rcases bind_eq_ok.mp found with ⟨_, definitionFound, found⟩
  rcases bind_eq_ok.mp found with ⟨_, optionsFound, equal⟩
  cases equal
  have nameSuffix := (isSuffix_of_tableName nameFound).trans (List.drop_suffix 2 tokens)
  have definitionIn := nested_tableDefinition definitionFound
  exact .single shorter rfl (definitionIn.widen nameSuffix (isSuffix_of_tableOptions optionsFound))

theorem nested_statements {defaultSchema : String} {found : List Statement}
    (read : statements defaultSchema tokens = .ok found) :
    Nested (found.map .statement) tokens [] := by
  fun_induction statements defaultSchema tokens generalizing found with
  | case1 =>
    cases read
    exact .nil List.suffix_rfl
  | case2 token rest _ induction =>
    exact (induction read).widen (List.suffix_cons token rest) List.suffix_rfl
  | case3 token rest _ _ induction =>
    have countSuffix := (isSuffix_dropBatchCount rest).trans (List.suffix_cons token rest)
    exact (induction read).widen countSuffix List.suffix_rfl
  | case4 => cases read
  | case5 token rest _ _ _ statement afterTable tableFound induction =>
    rcases map_eq_ok.mp read with ⟨others, othersRead, rfl⟩
    exact (nested_createTable tableFound).append (induction othersRead)
  | case6 token rest _ _ _ after =>
    rename_i induction
    rcases map_eq_ok.mp read with ⟨others, othersRead, rfl⟩
    have afterSuffix := isSuffix_afterStatement token rest
    have statementIn : Nested [.statement (.other (Token.textTo (token :: rest) after))]
        (token :: rest) after :=
      .leaf rfl (afterSuffix.trans (List.suffix_cons token rest))
        (Nat.lt_succ_of_le afterSuffix.length_le) rfl
    exact statementIn.append (induction othersRead)

end Grammar

open Grammar

/-- All texts in the trees of a script stand in the script, one after the other and each within the
text of the part around it. -/
theorem nestedIn_of_readScript {source defaultSchema : String} {found : List Statement}
    (read : readScript source defaultSchema = .ok found) :
    NestedIn source (found.map .statement) 0 source.utf8ByteSize := by
  rcases bind_eq_ok.mp read with ⟨tokens, scanned, read⟩
  have nested := nested_statements (mapError_eq_ok.mp read)
  have scannedAll : Token.scan source = .ok ([] ++ tokens) := scanned
  have nestedIn := nested.nestedIn (List.append_nil tokens).symm scannedAll
    (fun token _ => Nat.zero_le token.start) (Nat.zero_le _)
  rcases Token.exists_trail scanned with ⟨trail, whole⟩
  apply nestedIn.widen
  rw [whole, String.utf8ByteSize_append]
  exact Nat.le_add_right _ _

theorem nestedIn_of_readScript_computed :
    ∃ source found,
      source = "GO\nCREATE TABLE T (A INT, B AS (CASE A WHEN 1 THEN ISNULL(A, 0) ELSE f(A) END)" ++
        ", CONSTRAINT K PRIMARY KEY (A DESC));" ∧
      readScript source "dbo" = .ok found ∧ found.length = 1 ∧
      NestedIn source (found.map .statement) 0 source.utf8ByteSize := by
  obtain ⟨found, read, count⟩ : ∃ found,
      readScript
        ("GO\nCREATE TABLE T (A INT, B AS (CASE A WHEN 1 THEN ISNULL(A, 0) ELSE f(A) END)" ++
          ", CONSTRAINT K PRIMARY KEY (A DESC));") "dbo" = .ok found ∧ found.length = 1 :=
    map_eq_ok.mp (toOption_eq_some.mp (by decide +kernel))
  exact ⟨_, found, rfl, read, count, nestedIn_of_readScript read⟩

end SqlSchema
