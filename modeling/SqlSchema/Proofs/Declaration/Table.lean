import SqlSchema.Proofs.Declaration.Statement
import SqlSchema.Proofs.Extraction
import SqlSchema.Proofs.Marks
import SqlSchema.Proofs.Outcome

/-!
Declarations as tables. The statement of a declaration becomes one table, which has the columns and
the key that are declared and the marks that the key asks for.
-/

namespace SqlSchema

/-- A declaration that can be read: it has a schema and a column, and no column is without a name or
a type. -/
structure TableDeclaration.IsComplete (table : TableDeclaration) : Prop where
  schema_ne : table.schema ≠ ""
  columns_ne : table.columns ≠ []
  notBlank : ∀ column ∈ table.columns,
    Text.isBlankText column.name = false ∧ Text.isBlankText column.type = false

/-- Whether a column is the one declared, marked as part of the key or not. -/
structure ColumnDeclaration.Describes (declared : ColumnDeclaration) (column : Column) : Prop where
  name_eq : column.name = declared.name
  dataType_eq : column.dataType = declared.type
  argument1_eq : column.argument1 = declared.arguments.numbers[0]?
  argument2_eq : column.argument2 = declared.arguments.numbers[1]?
  identity_eq : column.isMarkedIdentity = declared.isIdentity
  constraint_eq : column.constraint = declared.nullRule.constraint
  stored : column.isComputed = false ∧ column.referenceText = none

/-! ## Extraction -/

namespace Extraction

/-- The column of a declaration whose text is `sql`. -/
def declaredColumn (declared : ColumnDeclaration) (sql : String) : Column where
  name := declared.name
  dataType := declared.type
  argument1 := declared.arguments.numbers[0]?
  argument2 := declared.arguments.numbers[1]?
  constraint := declared.nullRule.constraint
  isMarkedIdentity := declared.isIdentity
  sql

/-- The columns that an element declares. -/
def declaredColumns : ElementDeclaration → List ColumnDeclaration
  | .column declared => [declared]
  | .key _ => []

/-- The names that an element puts into the key. -/
def declaredNames : ElementDeclaration → List String
  | .column _ => []
  | .key names => names

variable {diagnostics : Diagnostics} (quiet : diagnostics.isTracing = false)

include quiet in
theorem trace_of_quiet (message : String) : diagnostics.trace message = diagnostics := by
  rw [Diagnostics.trace, quiet]
  rfl

include quiet in
theorem column_of_declaration (declared : ColumnDeclaration)
    (nameSql typeSql identitySql ruleSql sql : String) (key : Key) :
    column (.identifier declared.name nameSql :: .dataType (declared.dataType typeSql) ::
        declared.options identitySql ruleSql) sql key diagnostics =
      ⟨declaredColumn declared sql, key, diagnostics⟩ := by
  have parts : (Node.identifier declared.name nameSql :: .dataType (declared.dataType typeSql) ::
      declared.options identitySql ruleSql).foldl ColumnState.add
        { column := { sql }, key, diagnostics } =
      ⟨declaredColumn declared sql, key, diagnostics⟩ := by
    obtain ⟨name, type, arguments, isIdentity, rule⟩ := declared
    cases isIdentity <;> cases rule <;> rfl
  rw [column, parts]
  dsimp only
  rw [trace_of_quiet quiet]

theorem listedColumns_of_names {names : List String} {children : List Node}
    (listed : List.Forall₂ Node.IsKeyColumn names children) : listedColumns children = names := by
  induction listed with
  | nil => rfl
  | cons isListed _ induction =>
    obtain ⟨text, rfl⟩ := isListed
    exact congrArg (_ :: ·) induction

theorem reportKey_of_names {names : List String} {children : List Node}
    (listed : List.Forall₂ Node.IsKeyColumn names children) (diagnostics : Diagnostics) :
    reportKey diagnostics children = diagnostics := by
  induction listed with
  | nil => rfl
  | cons isListed _ induction =>
    obtain ⟨text, rfl⟩ := isListed
    exact induction

include quiet in
/-- Every element adds the columns that it declares and the names that it puts into the key. -/
theorem addElements_of_declarations {elements : List ElementDeclaration} {nodes : List Node}
    (areRead : List.Forall₂ ElementDeclaration.IsReadAs elements nodes) (table : Table) :
    ∃ columns,
      nodes.foldl addElement (table, diagnostics) =
        ({ table with
            columns := table.columns ++ columns
            primaryKey := table.primaryKey.merge (elements.flatMap declaredNames) },
          diagnostics) ∧
      List.Forall₂ (fun declared column => ∃ sql, column = declaredColumn declared sql)
        (elements.flatMap declaredColumns) columns := by
  induction areRead generalizing table with
  | nil => exact ⟨[], by simp [Key.merge], .nil⟩
  | cons isRead _ induction =>
    cases isRead with
    | column declared nameSql typeSql identitySql ruleSql sql =>
      obtain ⟨columns, added, described⟩ := induction
        { table with columns := table.columns ++ [declaredColumn declared sql] }
      refine ⟨declaredColumn declared sql :: columns, ?_, .cons ⟨sql, rfl⟩ described⟩
      rw [List.foldl_cons, addElement, column_of_declaration quiet, added, List.append_assoc]
      rfl
    | key sql listed =>
      rename_i names children
      obtain ⟨columns, added, described⟩ := induction
        { table with primaryKey := table.primaryKey.merge names }
      refine ⟨columns, ?_, described⟩
      rw [List.foldl_cons, addElement, listedColumns_of_names listed, reportKey_of_names listed,
        added, List.flatMap_cons]
      simp only [Key.merge, List.foldl_append, declaredNames]

/-- The elements of a declaration declare its columns and its key. -/
theorem flatMap_elements (declaration : TableDeclaration) :
    declaration.elements.flatMap declaredColumns = declaration.columns ∧
      declaration.elements.flatMap declaredNames = declaration.key := by
  obtain ⟨schema, name, columns, key⟩ := declaration
  have columnsOf : (columns.map ElementDeclaration.column).flatMap declaredColumns = columns := by
    simp [List.flatMap_map, declaredColumns]
  have namesOf : (columns.map ElementDeclaration.column).flatMap declaredNames = [] := by
    simp [declaredNames]
  cases key <;>
    simp [TableDeclaration.elements, columnsOf, namesOf, declaredColumns, declaredNames]

include quiet in
/-- The table of a statement that declares `declaration`, before its key marks columns. -/
theorem table_of_declaration {declaration : TableDeclaration} {statement : CreateTable}
    (schema_eq : statement.schema = declaration.schema)
    (name_eq : statement.name = declaration.name)
    (areRead : List.Forall₂ ElementDeclaration.IsReadAs declaration.elements
      statement.definition.children) :
    ∃ columns,
      table statement diagnostics =
        ({ schema := declaration.schema, name := declaration.name, columns
           primaryKey := .ofList declaration.key, sql := statement.sql },
          diagnostics) ∧
      List.Forall₂ (fun declared column => ∃ sql, column = declaredColumn declared sql)
        declaration.columns columns := by
  obtain ⟨columns_eq, names_eq⟩ := flatMap_elements declaration
  obtain ⟨columns, added, described⟩ := addElements_of_declarations quiet areRead
    { schema := declaration.schema, name := declaration.name, sql := statement.sql }
  rw [columns_eq] at described
  refine ⟨columns, ?_, described⟩
  rw [table, trace_of_quiet quiet, schema_eq, name_eq, added, names_eq]
  rfl

end Extraction

/-! ## Resolution -/

/-- Without references resolution sets the key marks and nothing else. -/
theorem resolution_of_no_reference {table : Table}
    (noReference : ∀ column ∈ table.columns, column.reference? = none) :
    table.resolution =
      ({ table with columns := markKeys table.primaryKey.names table.columns }, []) := by
  have settled : IsSettled (markKeys table.primaryKey.names table.columns) := by
    intro column member reference found
    obtain ⟨index, before, beforeFound, rfl⟩ := exists_of_mem_markKeys member
    have none := noReference before (List.mem_of_getElem? beforeFound)
    rw [show (before.markedIf _).reference? = before.reference? from rfl, none] at found
    cases found
  rw [Table.resolution, settle_of_isSettled settled]

/-! ## Descriptions -/

namespace ColumnDeclaration

theorem Describes.markedIf {declared : ColumnDeclaration} {column : Column}
    (describes : declared.Describes column) (holds : Bool) :
    declared.Describes (column.markedIf holds) :=
  ⟨describes.name_eq, describes.dataType_eq, describes.argument1_eq, describes.argument2_eq,
    describes.identity_eq, describes.constraint_eq, describes.stored⟩

variable {declared : List ColumnDeclaration} {columns : List Column}
  (described : List.Forall₂ Describes declared columns)
include described

/-- A name stands for a column exactly if it is the first declared that the name matches. -/
theorem namesColumn_of_described {name : String} {index : Nat} :
    NamesColumn columns name index ↔
      declared.findIdx? (fun declaration => namesMatch declaration.name name) = some index := by
  have same : columns.findIdx? (fun column => namesMatch column.name name) =
      declared.findIdx? (fun declaration => namesMatch declaration.name name) := by
    induction described with
    | nil => rfl
    | cons first _ induction =>
      rw [List.findIdx?_cons, List.findIdx?_cons, first.name_eq, induction]
  rw [NamesColumn, same]

end ColumnDeclaration

/-! ## Tables -/

theorem CreateTable.process_of_declaration {declaration : TableDeclaration}
    (complete : declaration.IsComplete) {statement : CreateTable}
    (schema_eq : statement.schema = declaration.schema)
    (name_eq : statement.name = declaration.name)
    (areRead : List.Forall₂ ElementDeclaration.IsReadAs declaration.elements
      statement.definition.children) (path : String) :
    ∃ columns,
      List.Forall₂ ColumnDeclaration.Describes declaration.columns columns ∧
      (∀ column ∈ columns, column.isMarkedKey = false) ∧
      statement.process path false =
        { result := .ok
            { schema := declaration.schema, name := declaration.name
              columns := markKeys (Key.ofList declaration.key).names columns
              primaryKey := .ofList declaration.key, sourcePath := path, sql := statement.sql }
          diagnostics := []
          log := [] } := by
  let start : Diagnostics := { path, isTracing := false }
  have quiet : start.isTracing = false := rfl
  obtain ⟨columns, extracted, columnsDeclared⟩ :=
    Extraction.table_of_declaration quiet schema_eq name_eq areRead
  have described : List.Forall₂ ColumnDeclaration.Describes declaration.columns columns :=
    columnsDeclared.imp fun declared column isDeclared => by
      obtain ⟨sql, rfl⟩ := isDeclared
      exact ⟨rfl, rfl, rfl, rfl, rfl, rfl, rfl, rfl⟩
  have unmarked : ∀ column ∈ columns, column.isMarkedKey = false := by
    intro column member
    obtain ⟨declared, -, sql, rfl⟩ := exists_mem_of_forall₂ columnsDeclared member
    rfl
  have noReference : ∀ column ∈ columns, column.reference? = none := by
    intro column member
    obtain ⟨declared, -, describes⟩ := exists_mem_of_forall₂ described member
    rw [Column.reference?, describes.stored.2]
    rfl
  have marked := forall₂_markKeys (fun _ _ holds describes => describes.markedIf holds)
    (Key.ofList declaration.key).names described
  let table : Table :=
    { schema := declaration.schema, name := declaration.name, columns
      primaryKey := .ofList declaration.key, sourcePath := path, sql := statement.sql }
  have sound : ({ table with
      columns := markKeys (Key.ofList declaration.key).names columns } : Table).defect? = none := by
    refine Table.defect?_eq_none_iff.mpr fun column member => ?_
    obtain ⟨declared, declaredMember, describes⟩ := exists_mem_of_forall₂ marked member
    rw [describes.name_eq, describes.dataType_eq]
    exact complete.notBlank declared declaredMember
  have resolved : table.resolution =
      ({ table with columns := markKeys (Key.ofList declaration.key).names columns }, []) :=
    resolution_of_no_reference noReference
  refine ⟨columns, described, unmarked, ?_⟩
  rw [CreateTable.process, extracted]
  dsimp only
  rw [resolved]
  dsimp only
  rw [sound]
  rfl

/-- A complete declaration is read as one table without notices. The table has the schema, the name,
the columns and the key that are declared; a column is marked exactly if it is the first column that
some name of the key matches. -/
theorem readTables_script (declaration : TableDeclaration) (complete : declaration.IsComplete)
    (path : String) (options : ReadingOptions) (quiet : options.isTracing = false) :
    ∃ outcome table, readTables declaration.script path options = .ok [outcome] ∧
      outcome.result = .ok table ∧ outcome.diagnostics = [] ∧
      table.schema = declaration.schema ∧ table.name = declaration.name ∧
      List.Forall₂ ColumnDeclaration.Describes declaration.columns table.columns ∧
      table.primaryKey = .ofList declaration.key ∧
      ∀ index column, table.columns[index]? = some column →
        (column.isMarkedKey = true ↔ ∃ name ∈ declaration.key,
          declaration.columns.findIdx? (fun declared => namesMatch declared.name name) =
            some index) := by
  obtain ⟨statement, script, schema_eq, name_eq, areRead⟩ := Grammar.readScript_of_declaration
    complete.schema_ne complete.columns_ne options.defaultSchema
  obtain ⟨columns, described, unmarked, processed⟩ :=
    statement.process_of_declaration complete schema_eq name_eq areRead path
  have read : readTables declaration.script path options = .ok [statement.process path false] := by
    rw [readTables, script, quiet]
    rfl
  rw [processed] at read
  refine ⟨_, _, read, rfl, rfl, rfl, rfl,
    forall₂_markKeys (fun _ _ holds describes => describes.markedIf holds) _ described, rfl, ?_⟩
  intro index column found
  dsimp only at found
  rw [getElem?_markKeys] at found
  obtain ⟨before, beforeFound, rfl⟩ := Option.map_eq_some_iff.mp found
  have notBlank : ∀ column ∈ columns, Text.isBlankText column.name = false := by
    intro column member
    obtain ⟨declared, declaredMember, describes⟩ := exists_mem_of_forall₂ described member
    rw [describes.name_eq]
    exact (complete.notBlank declared declaredMember).1
  rw [Column.markedIf, unmarked before (List.mem_of_getElem? beforeFound), Bool.false_or,
    decide_eq_true_iff, exists_namesColumn_ofList notBlank]
  simp only [ColumnDeclaration.namesColumn_of_described described]

/-- Brackets, comments and keywords in names; a name of the key in another case and a blank one. -/
theorem readTables_script_quoted :
    let declaration : TableDeclaration :=
      { schema := "a]b", name := "--", key := ["ID", " ", "]"]
        columns := [⟨"Id", "int", .none, true, .notNull⟩, ⟨"id", "NULL", .two 18 2, false, .null⟩,
          ⟨"]", "/* [", .maximum, false, .unspecified⟩] }
    let script := "CREATE TABLE [a]]b].[--] ([Id] [int] IDENTITY NOT NULL, "
      ++ "[id] [NULL](18, 2) NULL, []]] [/* [](MAX), PRIMARY KEY ([ID], [ ], []]]))"
    declaration.IsComplete ∧ declaration.script = script ∧
      ∃ outcome table, readTables script "t.sql" {} = .ok [outcome] ∧ outcome.result = .ok table ∧
        outcome.diagnostics = [] ∧ table.primaryKey = .ofList ["ID", " ", "]"] ∧
        ∀ index column, table.columns[index]? = some column →
          (column.isMarkedKey = true ↔ index = 0 ∨ index = 2) := by
  intro declaration script
  have complete : declaration.IsComplete := ⟨by decide, by decide, by decide +kernel⟩
  have written : declaration.script = script := by decide +kernel
  obtain ⟨outcome, table, read, result, silent, -, -, -, key, marks⟩ :=
    readTables_script declaration complete "t.sql" {} rfl
  refine ⟨complete, written, outcome, table, written ▸ read, result, silent, key, ?_⟩
  intro index column found
  have stands : declaration.key.map (fun name => declaration.columns.findIdx? fun declared =>
      namesMatch declared.name name) = [some 0, none, some 2] := by decide +kernel
  rw [marks index column found, ← List.mem_map, stands]
  simp [eq_comm]

end SqlSchema
