import SqlSchema.Proofs.Declaration.Column

/-!
Declarations as statements. The lexemes of a declaration are read as the elements that it declares,
its script as the one statement with these elements.
-/

namespace SqlSchema.Grammar

open Lexemes
open Token (lexeme)

variable {token : Token} {text : String} {rest others : List Token}

/-! ## Keys -/

theorem dropDirection_of_kind (notWord : token.kind ≠ .word) :
    dropDirection (token :: rest) = token :: rest := by
  have noDirection : nextIsWordIn ["ASC", "DESC"] (token :: rest) = false := by
    simp [nextIsWordIn, Token.isWordIn, Token.isWord, notWord]
  rw [dropDirection, noDirection, if_neg Bool.false_ne_true]

theorem indexedColumns_last {stop : Token} (isName : token.lexeme = quoted text)
    (closes : stop.lexeme = rightParen) (others : List Token) :
    ∃ sql, indexedColumns (token :: stop :: others) = .ok ([.indexedColumn text sql], others) := by
  have kind : stop.kind = .rightParen := Token.kind_of_lexeme closes
  have closing : expectRightParen (stop :: others) = .ok others := expectRightParen_of_kind kind
  refine ⟨Token.textTo (token :: stop :: others) (stop :: others), ?_⟩
  rw [indexedColumns_eq]
  refine bind_eq_ok.mpr ⟨_, name_of_quoted isName, ?_⟩
  dsimp only
  rw [dropDirection_of_kind (by simp [kind]), if_neg (by simp [nextIs_cons, kind])]
  exact bind_eq_ok.mpr ⟨_, closing, rfl⟩

theorem indexedColumns_cons {separator : Token} {nodes : List Node}
    (isName : token.lexeme = quoted text) (separates : separator.lexeme = comma)
    (found : indexedColumns rest = .ok (nodes, others)) :
    ∃ sql, indexedColumns (token :: separator :: rest) =
      .ok (.indexedColumn text sql :: nodes, others) := by
  have kind : separator.kind = .comma := Token.kind_of_lexeme separates
  refine ⟨Token.textTo (token :: separator :: rest) (separator :: rest), ?_⟩
  rw [indexedColumns_eq]
  refine bind_eq_ok.mpr ⟨_, name_of_quoted isName, ?_⟩
  dsimp only
  rw [dropDirection_of_kind (by simp [kind]), if_pos (nextIs_of_kind kind)]
  exact bind_eq_ok.mpr ⟨_, found, rfl⟩

/-- The names of a key are read as its columns. -/
theorem indexedColumns_of_names {names : List String} (notEmpty : names ≠ []) {tokens : List Token}
    (written : tokens.map lexeme =
      separated (names.map fun text => [quoted text]) ++ [rightParen])
    (others : List Token) :
    ∃ nodes, indexedColumns (tokens ++ others) = .ok (nodes, others) ∧
      List.Forall₂ Node.IsKeyColumn names nodes := by
  induction names generalizing tokens with
  | nil => exact absurd rfl notEmpty
  | cons text names induction =>
    cases names with
    | nil =>
      obtain ⟨label, _, rfl, isLabel, written⟩ := List.map_eq_cons_iff.mp written
      obtain ⟨closes, _, rfl, isClose, written⟩ := List.map_eq_cons_iff.mp written
      cases List.map_eq_nil_iff.mp written
      obtain ⟨sql, read⟩ := indexedColumns_last isLabel isClose others
      exact ⟨_, read, .cons ⟨sql, rfl⟩ .nil⟩
    | cons next names =>
      obtain ⟨label, _, rfl, isLabel, written⟩ := List.map_eq_cons_iff.mp written
      obtain ⟨separator, _, rfl, isComma, written⟩ := List.map_eq_cons_iff.mp written
      obtain ⟨nodes, rest, listed⟩ := induction (List.cons_ne_nil _ _) written
      obtain ⟨sql, read⟩ := indexedColumns_cons isLabel isComma rest
      exact ⟨_, read, .cons ⟨sql, rfl⟩ listed⟩

section

variable {stop : Token} (ends : stop.EndsElement) {tokens : List Token}
include ends

theorem indexOptions_of_ends : indexOptions (stop :: others) = .ok ([], stop :: others) := by
  refine many_of_none ?_
  simp [indexOption?, nextIsWord_cons, ends.isWord_eq_false]

/-- The element of a key is read as the key that it declares. -/
theorem constraint_of_key {names : List String} (notEmpty : names ≠ [])
    (written : tokens.map lexeme = (ElementDeclaration.key names).lexemes) (others : List Token) :
    ∃ node, constraint (tokens ++ stop :: others) = .ok (node, stop :: others) ∧
      (ElementDeclaration.key names).IsReadAs node := by
  obtain ⟨primary, _, rfl, isPrimary, written⟩ := List.map_eq_cons_iff.mp written
  obtain ⟨word, _, rfl, isKey, written⟩ := List.map_eq_cons_iff.mp written
  obtain ⟨opens, listed, rfl, isOpen, written⟩ := List.map_eq_cons_iff.mp written
  have notConstraint : primary.isWord "CONSTRAINT" = false :=
    Token.isWord_eq_false_of_lexeme isPrimary (by decide +kernel)
  have isPrimaryWord : primary.isWord "PRIMARY" = true := Token.isWord_self_of_lexeme isPrimary
  have isKeyWord : word.isWord "KEY" = true := Token.isWord_self_of_lexeme isKey
  have kind : opens.kind = .leftParen := Token.kind_of_lexeme isOpen
  obtain ⟨nodes, columns, areListed⟩ :=
    indexedColumns_of_names notEmpty written (stop :: others)
  have tail : keyTail (opens :: (listed ++ stop :: others)) = .ok (nodes, stop :: others) := by
    have kept : dropIndexKind (opens :: (listed ++ stop :: others)) =
        opens :: (listed ++ stop :: others) := by
      simp [dropIndexKind, nextIsWord_cons, Token.isWord, kind]
    rw [keyTail, kept]
    dsimp only
    rw [if_pos (nextIs_of_kind kind)]
    refine bind_eq_ok.mpr ⟨_, columns, bind_eq_ok.mpr ⟨_, indexOptions_of_ends ends, ?_⟩⟩
    rw [List.append_nil]
  have keyword : expectWord "KEY" (word :: opens :: (listed ++ stop :: others)) =
      .ok (opens :: (listed ++ stop :: others)) := by
    rw [expectWord, nextIsWord_cons, isKeyWord, if_pos rfl, List.tail_cons]
  refine ⟨_, ?_, .key
    (Token.textTo (primary :: word :: opens :: (listed ++ stop :: others)) (stop :: others))
    areListed⟩
  change constraint (primary :: word :: opens :: (listed ++ stop :: others)) = _
  rw [constraint, nextIsWord_cons, notConstraint, if_neg Bool.false_ne_true, constraintBody]
  dsimp only
  rw [nextIsWord_cons, isPrimaryWord, if_pos rfl]
  exact bind_eq_ok.mpr ⟨_, keyword, bind_eq_ok.mpr ⟨_, tail, rfl⟩⟩

/-! ## Tables -/

/-- The element of a table is read as the node that it declares. -/
theorem tableElement_of_declaration {element : ElementDeclaration} (notEmpty : element ≠ .key [])
    (written : tokens.map lexeme = element.lexemes) (others : List Token) :
    ∃ node, tableElement (tokens ++ stop :: others) = .ok ([node], stop :: others) ∧
      element.IsReadAs node := by
  cases element with
  | column declared =>
    obtain ⟨node, read, isRead⟩ := column_of_declaration ends declared written others
    obtain ⟨label, rest, rfl, isLabel, -⟩ := List.map_eq_cons_iff.mp written
    have notWord := Token.isWord_of_quoted isLabel
    refine ⟨node, ?_, isRead⟩
    rw [List.cons_append] at read ⊢
    rw [tableElement, nextIsWordIn, List.head?_cons, Option.any_some,
      Token.isWordIn_of_quoted isLabel, nextIsWord_cons, notWord, nextAreWords, notWord,
      Bool.false_and, read]
    rfl
  | key names =>
    have someName : names ≠ [] := fun equal => notEmpty (equal ▸ rfl)
    obtain ⟨node, read, isRead⟩ := constraint_of_key ends someName written others
    obtain ⟨primary, rest, rfl, isPrimary, -⟩ := List.map_eq_cons_iff.mp written
    have isWord : primary.isWord "PRIMARY" = true := Token.isWord_self_of_lexeme isPrimary
    have isConstraint : nextIsWordIn ["CONSTRAINT", "PRIMARY", "UNIQUE", "FOREIGN", "CHECK"]
        (primary :: (rest ++ stop :: others)) = true := by
      simp [nextIsWordIn, Token.isWordIn, isWord]
    refine ⟨node, ?_, isRead⟩
    rw [List.cons_append] at read ⊢
    rw [tableElement, List.isEmpty_cons, if_neg Bool.false_ne_true, if_pos isConstraint]
    refine bind_eq_ok.mpr ⟨_, read, ?_⟩
    dsimp only
    rw [if_pos (Parallel.atElementEnd_of_ends ends others)]

end

/-- The elements of a table are read as the nodes that they declare. -/
theorem tableElements_of_declarations {elements : List ElementDeclaration} (some : elements ≠ [])
    (notEmpty : ∀ element ∈ elements, element ≠ .key []) {stop : Token}
    (closes : stop.kind = .rightParen) {tokens : List Token}
    (written : tokens.map lexeme = separated (elements.map ElementDeclaration.lexemes))
    (others : List Token) :
    ∃ nodes, tableElements (tokens ++ stop :: others) = .ok (nodes, stop :: others) ∧
      List.Forall₂ ElementDeclaration.IsReadAs elements nodes := by
  induction elements generalizing tokens with
  | nil => exact absurd rfl some
  | cons element elements induction =>
    obtain ⟨firstNotEmpty, othersNotEmpty⟩ := List.forall_mem_cons.mp notEmpty
    cases elements with
    | nil =>
      obtain ⟨node, read, isRead⟩ :=
        tableElement_of_declaration (.inr closes) firstNotEmpty written others
      have last : furtherElements (stop :: others) = .ok ([], stop :: others) := by
        rw [furtherElements, if_neg (by simp [nextIs_cons, closes])]
      refine ⟨[node], ?_, .cons isRead .nil⟩
      rw [tableElements_eq]
      exact bind_eq_ok.mpr ⟨_, read, bind_eq_ok.mpr ⟨_, last, rfl⟩⟩
    | cons next elements =>
      obtain ⟨front, _, rfl, elementWritten, written⟩ := List.map_eq_append_iff.mp written
      obtain ⟨separator, rest, rfl, isComma, written⟩ := List.map_eq_cons_iff.mp written
      have kind : separator.kind = .comma := Token.kind_of_lexeme isComma
      obtain ⟨node, read, isRead⟩ :=
        tableElement_of_declaration (.inl kind) firstNotEmpty elementWritten
          (rest ++ stop :: others)
      obtain ⟨nodes, further, areRead⟩ := induction (List.cons_ne_nil _ _) othersNotEmpty written
      -- Another element comes after the comma, so the comma does not stand after the last one.
      have later : furtherElements (separator :: (rest ++ stop :: others)) =
          .ok (nodes, stop :: others) := by
        rw [furtherElements, if_pos (nextIs_of_kind kind), List.tail_cons,
          nextIs_of_tableElements further, if_neg Bool.false_ne_true, further]
      refine ⟨node :: nodes, ?_, .cons isRead areRead⟩
      rw [List.append_assoc, List.cons_append, tableElements_eq]
      exact bind_eq_ok.mpr ⟨_, read, bind_eq_ok.mpr ⟨_, later, rfl⟩⟩

theorem tableDefinition_of_declarations {elements : List ElementDeclaration}
    (some : elements ≠ []) (notEmpty : ∀ element ∈ elements, element ≠ .key [])
    {tokens : List Token} (written : tokens.map lexeme =
      leftParen :: (separated (elements.map ElementDeclaration.lexemes) ++ [rightParen])) :
    ∃ definition, tableDefinition tokens = .ok (definition, []) ∧
      List.Forall₂ ElementDeclaration.IsReadAs elements definition.children := by
  obtain ⟨opens, _, rfl, isOpen, written⟩ := List.map_eq_cons_iff.mp written
  obtain ⟨body, _, rfl, bodyWritten, written⟩ := List.map_eq_append_iff.mp written
  obtain ⟨closes, _, rfl, isClose, written⟩ := List.map_eq_cons_iff.mp written
  cases List.map_eq_nil_iff.mp written
  have openKind : opens.kind = .leftParen := Token.kind_of_lexeme isOpen
  have closeKind : closes.kind = .rightParen := Token.kind_of_lexeme isClose
  obtain ⟨nodes, read, areRead⟩ := tableElements_of_declarations some notEmpty closeKind
    bodyWritten []
  exact ⟨_, tableDefinition_of_elements openKind closeKind read, areRead⟩

/-! ## Statements -/

theorem tableName_of_qualified {label dot part : Token} {schema : String} (notEmpty : schema ≠ "")
    (isSchema : label.lexeme = quoted schema) (isDot : dot.lexeme = (.dot, "."))
    (isName : part.lexeme = quoted text) (noDot : nextIs .dot rest = false)
    (defaultSchema : String) :
    tableName defaultSchema (label :: dot :: part :: rest) = .ok ((schema, text), rest) := by
  have dotKind : dot.kind = .dot := Token.kind_of_lexeme isDot
  have partKind : part.kind = .quotedName := Token.kind_of_lexeme isName
  have last : tableNameParts rest = .ok ([], rest) := by
    cases rest with
    | nil => rfl
    | cons token rest =>
      have kind : token.kind ≠ .dot := by simpa [nextIs_cons] using noDot
      rw [tableNameParts.eq_def]
      exact if_neg kind
  have parts : tableNameParts (dot :: part :: rest) = .ok ([text], rest) := by
    rw [tableNameParts.eq_def]
    dsimp only
    rw [if_pos dotKind, if_neg (by simp [partKind]),
      if_pos (Token.isName_of_lexeme_bracketed isName), last, Token.name_of_lexeme_bracketed isName]
  have kept : (!schema.isEmpty) = true := by simpa using notEmpty
  refine bind_eq_ok.mpr ⟨_, name_of_quoted isSchema, bind_eq_ok.mpr ⟨_, parts, ?_⟩⟩
  simp [Option.filter, kept]

/-- The lexemes of a declaration are read as a statement that declares the same. -/
theorem createTable_of_declaration {table : TableDeclaration} (schema_ne : table.schema ≠ "")
    (columns_ne : table.columns ≠ []) {tokens : List Token}
    (written : tokens.map lexeme = table.lexemes) (defaultSchema : String) :
    nextAreWords ["CREATE", "TABLE"] tokens = true ∧
      ∃ statement, createTable defaultSchema tokens = .ok (statement, []) ∧
        statement.schema = table.schema ∧ statement.name = table.name ∧
        List.Forall₂ ElementDeclaration.IsReadAs table.elements statement.definition.children := by
  obtain ⟨create, _, rfl, isCreate, written⟩ := List.map_eq_cons_iff.mp written
  obtain ⟨word, _, rfl, isTable, written⟩ := List.map_eq_cons_iff.mp written
  obtain ⟨label, _, rfl, isSchema, written⟩ := List.map_eq_cons_iff.mp written
  obtain ⟨dot, _, rfl, isDot, written⟩ := List.map_eq_cons_iff.mp written
  obtain ⟨part, body, rfl, isName, written⟩ := List.map_eq_cons_iff.mp written
  have someElement : table.elements ≠ [] := by simp [TableDeclaration.elements, columns_ne]
  have notEmpty : ∀ element ∈ table.elements, element ≠ .key [] := by
    intro element member isKey
    subst isKey
    rcases List.mem_append.mp member with member | member
    · simp at member
    · split at member
      · cases member
      · rename_i someName
        have empty : [] = table.key := ElementDeclaration.key.inj (List.mem_singleton.mp member)
        exact someName (empty ▸ rfl)
  obtain ⟨definition, read, areRead⟩ :=
    tableDefinition_of_declarations someElement notEmpty written
  have noDot : nextIs .dot body = false := by
    obtain ⟨opens, _, rfl, isOpen, -⟩ := List.map_eq_cons_iff.mp written
    rw [nextIs_cons, Token.kind_of_lexeme isOpen]
    rfl
  have named := tableName_of_qualified schema_ne isSchema isDot isName noDot defaultSchema
  have isCreateWord : create.isWord "CREATE" = true := Token.isWord_self_of_lexeme isCreate
  have isTableWord : word.isWord "TABLE" = true := Token.isWord_self_of_lexeme isTable
  refine ⟨by simp [nextAreWords, isCreateWord, isTableWord],
    ⟨table.schema, table.name, Token.textTo (create :: word :: label :: dot :: part :: body) [],
      definition⟩, ?_, rfl, rfl, areRead⟩
  exact bind_eq_ok.mpr ⟨_, named, bind_eq_ok.mpr ⟨_, read, bind_eq_ok.mpr
    ⟨_, tableOptions_nil, rfl⟩⟩⟩

/-- The script of a declaration is read as one statement that declares the same. -/
theorem readScript_of_declaration {table : TableDeclaration} (schema_ne : table.schema ≠ "")
    (columns_ne : table.columns ≠ []) (defaultSchema : String) :
    ∃ statement : CreateTable,
      readScript table.script defaultSchema = .ok [.createTable statement] ∧
      statement.schema = table.schema ∧ statement.name = table.name ∧
      List.Forall₂ ElementDeclaration.IsReadAs table.elements statement.definition.children := by
  obtain ⟨tokens, scanned, written⟩ := table.exists_scan
  obtain ⟨isTable, statement, read, declared⟩ :=
    createTable_of_declaration schema_ne columns_ne written defaultSchema
  have only : statements defaultSchema tokens = .ok [.createTable statement] := by
    rw [statements_of_createTable isTable]
    refine bind_eq_ok.mpr ⟨_, read, ?_⟩
    dsimp only
    rw [statements]
    rfl
  exact ⟨statement, bind_eq_ok.mpr ⟨tokens, scanned, mapError_eq_ok.mpr only⟩, declared⟩

end SqlSchema.Grammar
