import SqlSchema.Diagnostic
import SqlSchema.Table.Basic

/-!
Extraction: a `CREATE TABLE` statement becomes a table. Columns come in declaration order, and every
primary key of the statement is merged into one. What depends on other columns (the key mark of a
column that a key names, the type of a computed column) is left open.
-/

namespace SqlSchema.Extraction

/-! ## Keys -/

/-- The columns listed in a key. -/
def listedColumns (children : List Node) : List String :=
  children.filterMap fun
    | .indexedColumn name _ => some name
    | _ => none

/-- Reports what does not belong into a key of the table. -/
def reportKey (diagnostics : Diagnostics) (children : List Node) : Diagnostics :=
  children.foldl
    (fun diagnostics child =>
      match child with
      | .indexedColumn .. | .identifier .. | .indexOption .. => diagnostics
      | other => diagnostics.unknown other)
    diagnostics

/-! ## Columns -/

/-- A column under construction, with the key and the notices of its table. -/
structure ColumnState where
  column : Column
  key : Key
  diagnostics : Diagnostics

/-- What one part of a declaration adds to a column. A key without a list means the column itself,
under the name it has so far; of several constraints the last one stays. -/
def ColumnState.add (state : ColumnState) (child : Node) : ColumnState :=
  let column := state.column
  match child with
  | .identifier value _ => { state with column := { column with name := value } }
  | .dataType type =>
    { state with
      column :=
        { column with
          dataType := type.name, argument1 := type.argument1, argument2 := type.argument2 } }
  | .identity _ => { state with column := { column with isMarkedIdentity := true } }
  | .primaryKey children _ =>
    match listedColumns children with
    | [] =>
      { state with
        column := { column with isMarkedKey := true }, key := state.key.insert column.name }
    | names => { state with key := state.key.merge names }
  | .constraint kind _ => { state with column := { column with constraint := kind } }
  | .collation _ => state
  | other => { state with diagnostics := state.diagnostics.unknown other }

/-- The column of a declaration with its effect on the key and the notices. -/
def column (children : List Node) (sql : String) (key : Key) (diagnostics : Diagnostics) :
    ColumnState :=
  let state := children.foldl ColumnState.add { column := { sql }, key, diagnostics }
  let column := state.column
  { state with
    diagnostics :=
      state.diagnostics.trace (column.dataType ++ " " ++ column.name ++ " " ++ column.sql) }

/-! ## Computed columns -/

/-- The type of an expression whose type cannot be told. -/
def fallbackType : String := "VARCHAR"

/-- The type of a `CASE`: that of the literal which its first clause yields. -/
def caseType (clauses : List WhenClause) (sql : String) (diagnostics : Diagnostics) :
    String × Diagnostics :=
  match clauses with
  | [] => (fallbackType, diagnostics.unknownSyntax "CaseExpression" sql)
  | clause :: _ =>
    match clause.result with
    | .literal kind _ _ => (kind.name, diagnostics)
    | _ => (fallbackType, diagnostics)

/-- What a column takes its type from if an argument of its call decides. -/
def argumentReference (argument : Node) (diagnostics : Diagnostics) :
    Option String × Diagnostics :=
  match argument with
  | .columnRef name _ => (some name, diagnostics)
  | .dataType type => (some type.name, diagnostics)
  | other => (none, diagnostics.unknown other)

/-- What a column takes its type from if it is a call: the first argument decides. Only `ISNULL` and
`CONVERT` may do without a reference. -/
def callReference (function : String) (arguments : List Node) (sql : String)
    (diagnostics : Diagnostics) : Option String × Diagnostics :=
  let (reference, diagnostics) :=
    match arguments with
    | [] => (none, diagnostics)
    | first :: _ => argumentReference first diagnostics
  if Text.upperCaseIs function "ISNULL" || Text.upperCaseIs function "CONVERT" then
    (reference, diagnostics)
  else
    match reference.filter fun name => !Text.isBlankText name with
    | some name => (some name, diagnostics)
    | none => (none, diagnostics.unknownSyntax "FunctionCallExpression" sql)

/-- What one part of a declaration adds to a computed column. -/
def addComputed (state : Column × Diagnostics) (child : Node) : Column × Diagnostics :=
  let (column, diagnostics) := state
  match child with
  | .identifier value _ => ({ column with name := value }, diagnostics)
  | .caseExpression _ clauses _ sql =>
    let (type, diagnostics) := caseType clauses sql diagnostics
    ({ column with dataType := type }, diagnostics)
  | .call function arguments sql =>
    let (reference, diagnostics) := callReference function arguments sql diagnostics
    ({ column with referenceText := reference }, diagnostics)
  | .columnRef name _ => ({ column with referenceText := some name }, diagnostics)
  | .constraint .. | .primaryKey .. => (column, diagnostics)
  | other => ({ column with dataType := fallbackType }, diagnostics.unknown other)

/-- The column of a declaration with `AS`. -/
def computedColumn (children : List Node) (sql : String) (diagnostics : Diagnostics) :
    Column × Diagnostics :=
  let (column, diagnostics) :=
    children.foldl addComputed ({ sql, isComputed := true }, diagnostics)
  (column, diagnostics.trace (column.name ++ " " ++ column.sql))

/-! ## Tables -/

/-- What one element of a statement adds to a table. -/
def addElement (state : Table × Diagnostics) (child : Node) : Table × Diagnostics :=
  let (table, diagnostics) := state
  match child with
  | .column children sql =>
    let state := column children sql table.primaryKey diagnostics
    ({ table with columns := table.columns ++ [state.column], primaryKey := state.key },
      state.diagnostics)
  | .computedColumn children sql =>
    let (column, diagnostics) := computedColumn children sql diagnostics
    ({ table with columns := table.columns ++ [column] }, diagnostics)
  | .primaryKey children _ =>
    ({ table with primaryKey := table.primaryKey.merge (listedColumns children) },
      reportKey diagnostics children)
  | .constraint .. => (table, diagnostics)
  | other => (table, diagnostics.unknown other)

/-- The table of a statement, with the notices about it after those made before. -/
def table (statement : CreateTable) (diagnostics : Diagnostics) : Table × Diagnostics :=
  let table : Table :=
    { schema := statement.schema, name := statement.name, sql := statement.sql }
  statement.definition.children.foldl addElement
    (table, diagnostics.trace (table.qualifiedName ++ " " ++ statement.definition.sql))

/-- The tables of several statements, extracted one after the other. -/
def tables : List CreateTable → Diagnostics → List Table × Diagnostics
  | [], diagnostics => ([], diagnostics)
  | statement :: rest, diagnostics =>
    let (first, diagnostics) := table statement diagnostics
    let (others, diagnostics) := tables rest diagnostics
    (first :: others, diagnostics)

end SqlSchema.Extraction
