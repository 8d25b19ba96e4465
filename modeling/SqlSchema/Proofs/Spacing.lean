import SqlSchema.Proofs.Excerpt
import SqlSchema.Proofs.Guise.Extraction
import SqlSchema.Proofs.Guise.Script

/-!
White space and comments between tokens. Scripts with the same words and with line breaks between
the same words are read alike: what stands between the words shows only in the texts that nodes,
columns and tables keep. Bare tokens, which have nothing before them and stand nowhere, are the
guise in which such scripts are the same.
-/

namespace SqlSchema

/-! ## Trees without their texts -/

mutual

/-- The node without the texts that it and its parts were read from. -/
def Node.withoutSql : Node → Node
  | .column children _ => .column (nodesWithoutSql children) ""
  | .computedColumn children _ => .computedColumn (nodesWithoutSql children) ""
  | .primaryKey children _ => .primaryKey (nodesWithoutSql children) ""
  | .constraint kind _ => .constraint kind ""
  | .identifier value _ => .identifier value ""
  | .dataType type => .dataType { type with sql := "" }
  | .identity _ => .identity ""
  | .collation _ => .collation ""
  | .indexedColumn name _ => .indexedColumn name ""
  | .indexOption _ => .indexOption ""
  | .caseExpression operand clauses otherwise _ =>
    .caseExpression (node?WithoutSql operand) (clausesWithoutSql clauses)
      (node?WithoutSql otherwise) ""
  | .call function arguments _ => .call function (nodesWithoutSql arguments) ""
  | .columnRef name _ => .columnRef name ""
  | .literal kind value _ => .literal kind value ""
  | .unknown typeName _ => .unknown typeName ""

/-- The clause without the texts that it and its parts were read from. -/
def WhenClause.withoutSql : WhenClause → WhenClause
  | .mk condition result _ => .mk condition.withoutSql result.withoutSql ""

def nodesWithoutSql : List Node → List Node
  | [] => []
  | node :: nodes => node.withoutSql :: nodesWithoutSql nodes

def node?WithoutSql : Option Node → Option Node
  | none => none
  | some node => some node.withoutSql

def clausesWithoutSql : List WhenClause → List WhenClause
  | [] => []
  | clause :: clauses => clause.withoutSql :: clausesWithoutSql clauses

end

/-- The statement without its text and the texts of its nodes. -/
def Statement.withoutSql : Statement → Statement
  | .createTable statement =>
    .createTable
      { statement with
        sql := "", definition := ⟨nodesWithoutSql statement.definition.children, ""⟩ }
  | .other _ => .other ""

/-! ## Tables without their texts -/

/-- The column without the text of its declaration. -/
def Column.withoutSql (column : Column) : Column :=
  { column with sql := "" }

/-- The table without the text of its statement and those of its columns. -/
def Table.withoutSql (table : Table) : Table :=
  { table with columns := table.columns.map Column.withoutSql, sql := "" }

/-- Whether the defects differ at most in the texts by which they give columns without a name. -/
structure StructuralDefect.SameButSql (left right : StructuralDefect) : Prop where
  schema : left.schema = right.schema
  name : left.name = right.name
  summary : left.summary = right.summary
  missingNames : left.missingNames.length = right.missingNames.length
  missingTypes : left.missingTypes = right.missingTypes

/-- Whether both statements yield a table, the same up to texts, or both have the same defect. -/
def TableOutcome.SameButSql (left right : TableOutcome) : Prop :=
  SameOutcome (fun table table' => table.withoutSql = table'.withoutSql)
    StructuralDefect.SameButSql left.result right.result

/-! ## Words and lines -/

/-- For each token after the first, whether it is on a later line than the token before it. -/
def Token.lineBreaks (tokens : List Token) : List Bool :=
  tokens.zipWith (fun first second => decide (first.line < second.line)) tokens.tail

/-- Whether the tokens are the same words, with line breaks between the same words. -/
structure Token.SameWords (left right : List Token) : Prop where
  words : (left.map fun token => (token.kind, token.text)) =
    right.map fun token => (token.kind, token.text)
  lineBreaks : Token.lineBreaks left = Token.lineBreaks right

namespace Token

/-- A token opens a line exactly if there is a line break before it or no token at all. -/
theorem opensLine_of_scan {source : String} {front tokens : List Token} {last : Token}
    (scanned : scan source = .ok (front ++ last :: tokens)) :
    tokens.map Token.opensLine = lineBreaks (last :: tokens) := by
  induction tokens generalizing front last with
  | nil => rfl
  | cons token tokens induction =>
    rw [List.append_cons] at scanned
    have follows := follows_of_scan scanned
    have opens : token.opensLine = decide (last.line < token.line) := by
      rw [follows.opensLine_eq]
      simp [lastLine]
    exact congrArg₂ List.cons opens (induction scanned)

theorem opensLine_head_of_scan {source : String} {first : Token} {tokens : List Token}
    (scanned : scan source = .ok (first :: tokens)) : first.opensLine = true := by
  have follows : Follows [] first := follows_of_scan scanned
  rw [follows.opensLine_eq, follows.line_eq, decide_eq_true_eq]
  exact Nat.lt_of_lt_of_le Nat.one_pos (Place.line_le_after .origin _)

end Token

/-! ## Bare tokens -/

/-- The guise of bare tokens. -/
def Guise.bare : Guise :=
  .ofTokens (fun original => { original with lead := "", start := 0, line := 0 }) (fun _ => rfl)
    (fun _ => rfl) fun _ => rfl

/-- Tables with bare tokens have no texts. -/
def NormalForm.bare : NormalForm where
  toGuise := .bare
  sql _ := ""
  text_text _ := rfl
  sql_of_shows _ := rfl

/-- The same words with the same line breaks are the same bare tokens. -/
theorem Token.SameWords.see_bare {left right : String} {tokens tokens' : List Token}
    (same : Token.SameWords tokens tokens') (scanned : Token.scan left = .ok tokens)
    (scanned' : Token.scan right = .ok tokens') :
    see Guise.bare tokens = see Guise.bare tokens' := by
  have opens : tokens.map Token.opensLine = tokens'.map Token.opensLine := by
    cases tokens with
    | nil =>
      have none : tokens' = [] := List.map_eq_nil_iff.mp same.words.symm
      rw [none]
    | cons first tokens =>
      cases tokens' with
      | nil => cases same.words
      | cons first' tokens' =>
        -- There is nothing before the first token, so it opens a line in every script.
        have head : first.opensLine = first'.opensLine := by
          rw [opensLine_head_of_scan scanned, opensLine_head_of_scan scanned']
        rw [← List.nil_append (first :: tokens)] at scanned
        rw [← List.nil_append (first' :: tokens')] at scanned'
        have rest : tokens.map Token.opensLine = tokens'.map Token.opensLine := by
          rw [opensLine_of_scan scanned, opensLine_of_scan scanned']
          exact same.lineBreaks
        rw [List.map_cons, List.map_cons, head, rest]
  let bare (word : TokenKind × String) (opensLine : Bool) : Token :=
    { kind := word.1, text := word.2, lead := "", start := 0, line := 0, opensLine }
  have rebuilt (tokens : List Token) : see Guise.bare tokens =
      List.zipWith bare (tokens.map fun token => (token.kind, token.text))
        (tokens.map Token.opensLine) := by
    rw [List.zipWith_map, List.zipWith_self]
    rfl
  rw [rebuilt, rebuilt, same.words, opens]

/-! ## What resembles bare trees -/

-- A proof that trees resemble each other has no size, so the recursion is on the first tree.
mutual

theorem Node.withoutSql_eq {node node' : Node} (same : Node.Resembles .bare node node') :
    node'.withoutSql = node.withoutSql := by
  cases same with
  | column same shown => exact congrArg (Node.column · "") (nodesWithoutSql_eq same)
  | computedColumn same shown => exact congrArg (Node.computedColumn · "") (nodesWithoutSql_eq same)
  | primaryKey same shown => exact congrArg (Node.primaryKey · "") (nodesWithoutSql_eq same)
  | call function same shown => exact congrArg (Node.call function · "") (nodesWithoutSql_eq same)
  | caseExpression sameOperand sameClauses sameOtherwise shown =>
    simp only [Node.withoutSql, node?WithoutSql_eq sameOperand, clausesWithoutSql_eq sameClauses,
      node?WithoutSql_eq sameOtherwise]
  | @dataType type type' same =>
    have schema : type'.schema? = type.schema? :=
      same.schema.trans (congrFun Option.map_id type.schema?)
    have name : type'.name = type.name := same.name
    simp only [Node.withoutSql, schema, name, same.argument1, same.argument2, same.isMaximum]
  | _ => rfl
termination_by sizeOf node

theorem WhenClause.withoutSql_eq {clause clause' : WhenClause}
    (same : WhenClause.Resembles .bare clause clause') :
    clause'.withoutSql = clause.withoutSql := by
  cases same with
  | mk sameCondition sameResult shown =>
    simp only [WhenClause.withoutSql, Node.withoutSql_eq sameCondition,
      Node.withoutSql_eq sameResult]
termination_by sizeOf clause

theorem nodesWithoutSql_eq {nodes nodes' : List Node}
    (same : List.Forall₂ (Node.Resembles .bare) nodes nodes') :
    nodesWithoutSql nodes' = nodesWithoutSql nodes := by
  cases same with
  | nil => rfl
  | cons sameNode sameNodes =>
    simp only [nodesWithoutSql, Node.withoutSql_eq sameNode, nodesWithoutSql_eq sameNodes]
termination_by sizeOf nodes

theorem node?WithoutSql_eq {node node' : Option Node}
    (same : Option.Rel (Node.Resembles .bare) node node') :
    node?WithoutSql node' = node?WithoutSql node := by
  cases same with
  | none => rfl
  | some same => simp only [node?WithoutSql, Node.withoutSql_eq same]
termination_by sizeOf node

theorem clausesWithoutSql_eq {clauses clauses' : List WhenClause}
    (same : List.Forall₂ (WhenClause.Resembles .bare) clauses clauses') :
    clausesWithoutSql clauses' = clausesWithoutSql clauses := by
  cases same with
  | nil => rfl
  | cons sameClause sameClauses =>
    simp only [clausesWithoutSql, WhenClause.withoutSql_eq sameClause,
      clausesWithoutSql_eq sameClauses]
termination_by sizeOf clauses

end

theorem Statement.withoutSql_eq {statement statement' : Statement}
    (same : Statement.Resembles .bare statement statement') :
    statement'.withoutSql = statement.withoutSql := by
  cases same with
  | other shown => rfl
  | @createTable first second same =>
    have schema : second.schema = first.schema := same.schema
    have name : second.name = first.name := same.name
    simp only [Statement.withoutSql, schema, name, nodesWithoutSql_eq same.definition.children]

theorem map_withoutSql_eq {found found' : List Statement}
    (same : List.Forall₂ (Statement.Resembles .bare) found found') :
    found'.map Statement.withoutSql = found.map Statement.withoutSql := by
  induction same with
  | nil => rfl
  | cons sameStatement sameOthers induction =>
    rw [List.map_cons, List.map_cons, induction, Statement.withoutSql_eq sameStatement]

/-! ## Tables of bare trees -/

theorem Column.normal_bare (column : Column) : column.normal .bare = column.withoutSql := by
  have reference : column.referenceText.map id = column.referenceText :=
    congrFun Option.map_id column.referenceText
  change { column with referenceText := column.referenceText.map id, sql := "" } = _
  rw [reference]
  rfl

theorem Table.normal_bare (table : Table) : table.normal .bare = table.withoutSql := by
  have key : table.primaryKey.seen .bare = table.primaryKey :=
    Key.eq_of_names (List.map_id table.primaryKey.names)
  have columns : table.columns.map (Column.normal .bare) = table.columns.map Column.withoutSql :=
    List.map_congr_left fun column _ => column.normal_bare
  change { table with
    columns := table.columns.map (Column.normal .bare)
    primaryKey := table.primaryKey.seen .bare
    sql := "" } = _
  rw [key, columns]
  rfl

section

variable (table : Table)

theorem Table.description_withoutSql : table.withoutSql.description = table.description := by
  simp [description, qualifiedName, withoutSql]

theorem Table.missingTypes_withoutSql : table.withoutSql.missingTypes = table.missingTypes := by
  simp [missingTypes, withoutSql, Column.withoutSql, List.filter_map, Function.comp_def]

theorem Table.length_missingNames_withoutSql :
    table.withoutSql.missingNames.length = table.missingNames.length := by
  simp [missingNames, withoutSql, Column.withoutSql, List.filter_map, Function.comp_def]

end

/-- What a table lacks does not depend on texts, but for those that stand for columns. -/
theorem Table.sameButSql_of_defect? {table table' : Table} {defect defect' : StructuralDefect}
    (same : table.withoutSql = table'.withoutSql) (found : table.defect? = some defect)
    (found' : table'.defect? = some defect') : defect.SameButSql defect' := by
  have eq_of_defect? {table : Table} {defect : StructuralDefect}
      (found : table.defect? = some defect) :
      defect = ⟨table.schema, table.name, table.description, table.missingNames,
        table.missingTypes⟩ := by
    unfold defect? at found
    split at found
    · cases found
    · exact (Option.some.inj found).symm
  rw [eq_of_defect? found, eq_of_defect? found']
  constructor
  · have schema : table.withoutSql.schema = table'.withoutSql.schema := by rw [same]
    exact schema
  · have name : table.withoutSql.name = table'.withoutSql.name := by rw [same]
    exact name
  · rw [← description_withoutSql, same, description_withoutSql]
  · rw [← length_missingNames_withoutSql, same, length_missingNames_withoutSql]
  · rw [← missingTypes_withoutSql, same, missingTypes_withoutSql]

theorem CreateTable.sameButSql_process (path : String) (isTracing : Bool)
    {left right : CreateTable}
    (same : (left.resolvedTable path isTracing).normal .bare =
      (right.resolvedTable path isTracing).normal .bare) :
    (left.process path isTracing).SameButSql (right.process path isTracing) := by
  refine ((process_normal path isTracing same).imp ?_).imp_error ?_
  · intro table table' same
    rwa [table.normal_bare, table'.normal_bare] at same
  · rintro defect defect' ⟨table, table', same, found, found'⟩
    rw [table.normal_bare, table'.normal_bare] at same
    exact Table.sameButSql_of_defect? same found found'

/-! ## Scripts -/

theorem Grammar.Refusal.message_toError (refusal : Refusal) (lastLine : Nat) :
    ((see Guise.bare refusal).toError 0).message = (refusal.toError lastLine).message := by
  obtain ⟨wanted, found⟩ := refusal
  cases found <;> cases wanted <;> rfl

/-- The same bare tokens are refused with the same message, or have statements that are alike. -/
theorem Grammar.readTokens_bare (defaultSchema : String) {tokens tokens' : List Token}
    (same : see Guise.bare tokens = see Guise.bare tokens') :
    SameOutcome Guise.bare.Alike (fun left right => left.message = right.message)
      (readTokens defaultSchema tokens) (readTokens defaultSchema tokens') := by
  refine (statements_alike Guise.bare defaultSchema same).mapError ?_
  intro refusal refusal' same
  rw [← Refusal.message_toError, same, Refusal.message_toError]

/-- Scripts with the same words and with line breaks between the same words are read alike,
whatever white space and comments they have. Both are read to statements that are equal but for
the texts of their nodes, or are refused with the same message; and of corresponding statements
both yield a table, the same but for its texts, or both have the same defect. -/
theorem reading_ignores_spacing {left right : String} {tokens tokens' : List Token}
    (scanned : Token.scan left = .ok tokens) (scanned' : Token.scan right = .ok tokens')
    (same : Token.SameWords tokens tokens') (path : String) (options : ReadingOptions) :
    SameOutcome
      (fun found found' => found.map Statement.withoutSql = found'.map Statement.withoutSql)
      (fun error error' => error.message = error'.message)
      (Grammar.readScript left options.defaultSchema)
      (Grammar.readScript right options.defaultSchema) ∧
    SameOutcome (List.Forall₂ TableOutcome.SameButSql)
      (fun error error' => error.message = error'.message)
      (readTables left path options) (readTables right path options) := by
  have bare : SameOutcome (fun tokens tokens' => see Guise.bare tokens = see Guise.bare tokens')
      (fun error error' => error.message = error'.message) (Token.scan left)
      (Token.scan right) := by
    rw [scanned, scanned']
    exact .ok (same.see_bare scanned scanned')
  have read : SameOutcome Guise.bare.Alike (fun error error' => error.message = error'.message)
      (Grammar.readScript left options.defaultSchema)
      (Grammar.readScript right options.defaultSchema) :=
    bare.bind fun _ _ _ tokens => Grammar.readTokens_bare options.defaultSchema tokens
  refine ⟨read.imp ?_, read.map ?_⟩
  · rintro found found' ⟨middle, resembles, resembles'⟩
    rw [← map_withoutSql_eq resembles, map_withoutSql_eq resembles']
  · intro found found' alike
    refine List.forall₂_map_right_iff.mpr (List.forall₂_map_left_iff.mpr ?_)
    exact (NormalForm.bare.resolvedTable_of_alike alike path options.isTracing).imp
      fun _ _ => CreateTable.sameButSql_process path options.isTracing

/-- A comment before the statement, one after the `GO` that ends its batch, and no spaces where none
are needed: the tables differ in their texts alone. -/
theorem reading_ignores_spacing_of_batch :
    let left := "CREATE TABLE T (Id INT PRIMARY KEY, Total AS (A + B))\nGO 2"
    let right :=
      "/* totals */CREATE TABLE T(Id INT PRIMARY KEY,Total AS(A+B)) -- end\n\n GO/* twice */2"
    let tokens := (Token.scanUpToError left).1
    let tokens' := (Token.scanUpToError right).1
    let leftTable : Table :=
      { schema := "dbo", name := "T", primaryKey := .ofList ["Id"], sourcePath := "t.sql"
        sql := "CREATE TABLE T (Id INT PRIMARY KEY, Total AS (A + B))"
        columns :=
          [{ name := "Id", dataType := "INT", isMarkedKey := true, sql := "Id INT PRIMARY KEY" },
            { name := "Total", dataType := "VARCHAR", isComputed := true
              sql := "Total AS (A + B)" }] }
    let rightTable : Table :=
      { schema := "dbo", name := "T", primaryKey := .ofList ["Id"], sourcePath := "t.sql"
        sql := "CREATE TABLE T(Id INT PRIMARY KEY,Total AS(A+B))"
        columns :=
          [{ name := "Id", dataType := "INT", isMarkedKey := true, sql := "Id INT PRIMARY KEY" },
            { name := "Total", dataType := "VARCHAR", isComputed := true
              sql := "Total AS(A+B)" }] }
    Token.scan left = .ok tokens ∧ Token.scan right = .ok tokens' ∧
      Token.SameWords tokens tokens' ∧ Accepts left "t.sql" {} leftTable ∧
      Accepts right "t.sql" {} rightTable ∧
      SameOutcome (List.Forall₂ TableOutcome.SameButSql)
        (fun error error' => error.message = error'.message)
        (readTables left "t.sql" {}) (readTables right "t.sql" {}) := by
  intro left right tokens tokens' leftTable rightTable
  have scanned : Token.scan left = .ok tokens :=
    Grammar.scan_eq_ok.mpr (Prod.ext rfl (by decide +kernel))
  have scanned' : Token.scan right = .ok tokens' :=
    Grammar.scan_eq_ok.mpr (Prod.ext rfl (by decide +kernel))
  have same : Token.SameWords tokens tokens' := ⟨by decide +kernel, by decide +kernel⟩
  exact ⟨scanned, scanned', same, by decide +kernel, by decide +kernel,
    (reading_ignores_spacing scanned scanned' same "t.sql" {}).2⟩

end SqlSchema
