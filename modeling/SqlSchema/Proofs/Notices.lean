import SqlSchema.Table.Extraction

/-!
The notices of an extraction. What is noticed about a statement depends on the statement alone, not
on what was noticed before; tracing only adds the traces. So the notices about several statements
are those about each of them, one after the other.
-/

namespace SqlSchema

/-! ## Notices -/

/-- The warning about a node that no rule covers, found in the file at `path`. -/
def Diagnostic.unknown (path : String) (node : Node) : Diagnostic where
  severity := .warning
  nodeType := node.typeName
  sql := node.sql
  path := path
  message := "UNKNOWN " ++ node.typeName ++ " " ++ node.sql ++ " in " ++ path

/-- The trace of what was extracted from the file at `path`. -/
def Diagnostic.trace (path message : String) : Diagnostic where
  severity := .debug
  nodeType := ""
  sql := ""
  path := path
  message := message

/-- Something noticed, whatever the file and whether or not traces are kept. -/
inductive Notice where
  | unknown (node : Node)
  | trace (message : String)

/-- What is kept of a notice. -/
def Notice.entries (path : String) (isTracing : Bool) : Notice → List Diagnostic
  | .unknown node => [.unknown path node]
  | .trace message => if isTracing then [.trace path message] else []

/-- The nodes that a notice warns about. -/
def Notice.node? : Notice → Option Node
  | .unknown node => some node
  | .trace _ => none

/-- What a notice records. -/
def Notice.message? : Notice → Option String
  | .unknown _ => none
  | .trace message => some message

theorem Notice.filter_isWarning_entries (path : String) (isTracing : Bool) (notice : Notice) :
    (notice.entries path isTracing).filter Diagnostic.isWarning =
      notice.node?.toList.map (Diagnostic.unknown path) := by
  cases notice <;> cases isTracing <;> rfl

theorem Notice.filter_not_isWarning_entries (path : String) (notice : Notice) :
    (notice.entries path true).filter (fun entry => !entry.isWarning) =
      notice.message?.toList.map (Diagnostic.trace path) := by
  cases notice <;> rfl

theorem Notice.isWarning_of_mem_entries {path : String} {notice : Notice} {entry : Diagnostic}
    (member : entry ∈ notice.entries path false) : entry.isWarning = true := by
  cases notice with
  | unknown node =>
    rw [List.mem_singleton.mp member]
    rfl
  | trace => cases member

namespace Diagnostics

/-- The notices with `notices` after them. -/
def note (diagnostics : Diagnostics) (notices : List Notice) : Diagnostics :=
  { diagnostics with
    entries := diagnostics.entries ++
      notices.flatMap (Notice.entries diagnostics.path diagnostics.isTracing) }

@[simp]
theorem note_nil (diagnostics : Diagnostics) : diagnostics.note [] = diagnostics := by
  simp [note]

@[simp]
theorem note_note (diagnostics : Diagnostics) (before after : List Notice) :
    (diagnostics.note before).note after = diagnostics.note (before ++ after) := by
  simp [note]

theorem unknown_eq_note (diagnostics : Diagnostics) (node : Node) :
    diagnostics.unknown node = diagnostics.note [.unknown node] := by
  simp [unknown, unknownSyntax, note, Notice.entries, Diagnostic.unknown]

theorem trace_eq_note (diagnostics : Diagnostics) (message : String) :
    diagnostics.trace message = diagnostics.note [.trace message] := by
  obtain ⟨path, isTracing, entries⟩ := diagnostics
  cases isTracing <;> simp [trace, note, Notice.entries, Diagnostic.trace]

/-- If each step makes notices that depend on its element alone, then a run makes those of its
elements in order. -/
theorem foldl_eq_note {State Element : Type} (diagnostics : State → Diagnostics)
    (step : State → Element → State) (notices : Element → List Notice)
    (one : ∀ state element,
      diagnostics (step state element) = (diagnostics state).note (notices element))
    (elements : List Element) (state : State) :
    diagnostics (elements.foldl step state) =
      (diagnostics state).note (elements.flatMap notices) := by
  induction elements generalizing state with
  | nil => simp
  | cons element elements induction =>
    rw [List.foldl_cons, induction, one, note_note, List.flatMap_cons]

end Diagnostics

namespace Extraction

/-! ## What is reported -/

/-- What is reported about a part of a column. -/
def columnReports : Node → List Node
  | .identifier .. | .dataType _ | .identity _ | .primaryKey .. | .constraint .. | .collation _ => []
  | other => [other]

/-- What is reported about the argument that decides the type of a call. -/
def argumentReports : Node → List Node
  | .columnRef .. | .dataType _ => []
  | other => [other]

/-- Whether a call gives its column a type to refer to. -/
def isReferring (function : String) (arguments : List Node) : Bool :=
  Text.upperCaseIs function "ISNULL" || Text.upperCaseIs function "CONVERT" ||
    match arguments with
    | .columnRef name _ :: _ => !Text.isBlankText name
    | .dataType type :: _ => !Text.isBlankText type.name
    | _ => false

/-- What is reported about a call: its first argument, and the call itself if that gives no type. -/
def callReports (function : String) (arguments : List Node) (sql : String) : List Node :=
  arguments.head?.toList.flatMap argumentReports ++
    if isReferring function arguments then [] else [.call function arguments sql]

/-- What is reported about a part of a computed column. -/
def computedReports : Node → List Node
  | .identifier .. | .columnRef .. | .constraint .. | .primaryKey .. => []
  | .caseExpression operand clauses otherwise sql =>
    if clauses.isEmpty then [.caseExpression operand clauses otherwise sql] else []
  | .call function arguments sql => callReports function arguments sql
  | other => [other]

/-- What is reported about a part of a key of the table. -/
def keyReports : Node → List Node
  | .indexedColumn .. | .identifier .. | .indexOption .. => []
  | other => [other]

/-- A direct child of a table's definition, of a column or of a computed column. -/
inductive Part where
  | element (node : Node)
  | ofColumn (node : Node)
  | ofComputedColumn (node : Node)

namespace Part

def node : Part → Node
  | element node | ofColumn node | ofComputedColumn node => node

/-- What is reported about a part, apart from its own parts. -/
def reports : Part → List Node
  | element (.column ..) | element (.computedColumn ..) | element (.constraint ..) => []
  | element (.primaryKey children _) => children.flatMap keyReports
  | element other => [other]
  | ofColumn node => columnReports node
  | ofComputedColumn node => computedReports node

end Part

/-- An element of a table and the parts of it, in source order. -/
def elementParts : Node → List Part
  | .column children sql => .element (.column children sql) :: children.map .ofColumn
  | .computedColumn children sql =>
    .element (.computedColumn children sql) :: children.map .ofComputedColumn
  | other => [.element other]

/-- The parts of a statement, in source order. -/
def parts (statement : CreateTable) : List Part :=
  statement.definition.children.flatMap elementParts

/-! ## Columns -/

theorem ColumnState.column_add_eq {state other : ColumnState} (same : state.column = other.column)
    (child : Node) : (state.add child).column = (other.add child).column := by
  cases child with
  | primaryKey children =>
    unfold ColumnState.add
    dsimp only
    split <;> simp only [same]
  | _ => simp only [ColumnState.add, same]

theorem ColumnState.key_add_eq {state other : ColumnState} (sameColumn : state.column = other.column)
    (sameKey : state.key = other.key) (child : Node) :
    (state.add child).key = (other.add child).key := by
  cases child with
  | primaryKey children =>
    unfold ColumnState.add
    dsimp only
    split <;> simp only [sameColumn, sameKey]
  | _ => exact sameKey

theorem ColumnState.diagnostics_add (state : ColumnState) (child : Node) :
    (state.add child).diagnostics = state.diagnostics.note ((columnReports child).map .unknown) := by
  cases child with
  | primaryKey children =>
    unfold ColumnState.add
    dsimp only
    split <;> exact (Diagnostics.note_nil _).symm
  | identifier | dataType | identity | constraint | collation =>
    exact (Diagnostics.note_nil _).symm
  | _ => exact Diagnostics.unknown_eq_note ..

/-- The column of a declaration, whatever the key and the notices of its table. -/
def columnValue (children : List Node) (sql : String) : Column :=
  (column children sql .empty { path := "", isTracing := false }).column

/-- What is traced of a column. -/
def columnMessage (column : Column) : String :=
  if column.isComputed then column.name ++ " " ++ column.sql
  else column.dataType ++ " " ++ column.name ++ " " ++ column.sql

theorem column_column (children : List Node) (sql : String) (key : Key) (diagnostics : Diagnostics) :
    (column children sql key diagnostics).column = columnValue children sql :=
  List.foldl_rel (r := fun state other : ColumnState => state.column = other.column) rfl
    fun child _ _ _ same => ColumnState.column_add_eq same child

theorem column_key (children : List Node) (sql : String) (key : Key)
    (diagnostics other : Diagnostics) :
    (column children sql key diagnostics).key = (column children sql key other).key := by
  have same := List.foldl_rel
    (r := fun state other : ColumnState => state.column = other.column ∧ state.key = other.key)
    (a := { column := { sql }, key, diagnostics }) (b := { column := { sql }, key, diagnostics := other })
    (l := children) ⟨rfl, rfl⟩ fun child _ _ _ same =>
      ⟨ColumnState.column_add_eq same.1 child, ColumnState.key_add_eq same.1 same.2 child⟩
  exact same.2

theorem ColumnState.isComputed_add (state : ColumnState) (child : Node) :
    (state.add child).column.isComputed = state.column.isComputed := by
  cases child with
  | primaryKey children =>
    unfold ColumnState.add
    dsimp only
    split <;> rfl
  | _ => rfl

theorem isComputed_columnValue (children : List Node) (sql : String) :
    (columnValue children sql).isComputed = false :=
  List.foldlRecOn (motive := fun state : ColumnState => state.column.isComputed = false) children
    ColumnState.add rfl fun state regular child _ => (state.isComputed_add child).trans regular

theorem column_diagnostics (children : List Node) (sql : String) (key : Key)
    (diagnostics : Diagnostics) :
    (column children sql key diagnostics).diagnostics =
      diagnostics.note ((children.flatMap columnReports).map .unknown ++
        [.trace (columnMessage (columnValue children sql))]) := by
  have reported := Diagnostics.foldl_eq_note ColumnState.diagnostics ColumnState.add
    (fun child => (columnReports child).map .unknown) ColumnState.diagnostics_add children
    { column := { sql }, key, diagnostics }
  have message : columnMessage (columnValue children sql) =
      (column children sql key diagnostics).column.dataType ++ " " ++
        (column children sql key diagnostics).column.name ++ " " ++
        (column children sql key diagnostics).column.sql := by
    rw [column_column, columnMessage, isComputed_columnValue]
    rfl
  rw [message, ← Diagnostics.note_note, List.map_flatMap, ← reported, ← Diagnostics.trace_eq_note]
  rfl

/-! ## Computed columns -/

theorem argumentReference_fst (argument : Node) (diagnostics other : Diagnostics) :
    (argumentReference argument diagnostics).1 = (argumentReference argument other).1 := by
  cases argument <;> rfl

theorem argumentReference_snd (argument : Node) (diagnostics : Diagnostics) :
    (argumentReference argument diagnostics).2 =
      diagnostics.note ((argumentReports argument).map .unknown) := by
  cases argument with
  | columnRef | dataType => exact (Diagnostics.note_nil _).symm
  | _ => exact Diagnostics.unknown_eq_note ..

theorem callReference_fst (function : String) (arguments : List Node) (sql : String)
    (diagnostics other : Diagnostics) :
    (callReference function arguments sql diagnostics).1 =
      (callReference function arguments sql other).1 := by
  cases arguments with
  | nil =>
    unfold callReference
    dsimp only
    split <;> rfl
  | cons first rest =>
    unfold callReference
    dsimp only
    rw [argumentReference_fst first diagnostics other]
    split
    · rfl
    · split <;> rfl

/-- The name that the deciding argument of a call gives. -/
theorem argumentReference_filter (function : String) (first : Node) (rest : List Node)
    (diagnostics : Diagnostics)
    (bound : (Text.upperCaseIs function "ISNULL" || Text.upperCaseIs function "CONVERT") = false) :
    ((argumentReference first diagnostics).1.filter fun name => !Text.isBlankText name).isSome =
      isReferring function (first :: rest) := by
  unfold isReferring
  rw [bound, Bool.false_or]
  cases first with
  | columnRef name | dataType type => simp [argumentReference, Option.isSome_filter]
  | _ => rfl

theorem callReference_snd (function : String) (arguments : List Node) (sql : String)
    (diagnostics : Diagnostics) :
    (callReference function arguments sql diagnostics).2 =
      diagnostics.note ((callReports function arguments sql).map .unknown) := by
  have reportCall (diagnostics : Diagnostics) :
      diagnostics.unknownSyntax "FunctionCallExpression" sql =
        diagnostics.note [.unknown (.call function arguments sql)] :=
    Diagnostics.unknown_eq_note diagnostics (.call function arguments sql)
  cases bound : Text.upperCaseIs function "ISNULL" || Text.upperCaseIs function "CONVERT" with
  | true =>
    have referring : isReferring function arguments = true := by simp [isReferring, bound]
    unfold callReference callReports
    rw [bound, referring]
    cases arguments with
    | nil => exact (Diagnostics.note_nil _).symm
    | cons first rest => simp [argumentReference_snd]
  | false =>
    unfold callReference callReports
    rw [bound]
    cases arguments with
    | nil => simpa [isReferring, bound] using reportCall diagnostics
    | cons first rest =>
      rw [← argumentReference_filter function first rest diagnostics bound]
      dsimp only
      cases (argumentReference first diagnostics).1.filter fun name => !Text.isBlankText name with
      | none => simp [argumentReference_snd, reportCall]
      | some name => simp [argumentReference_snd]

theorem addComputed_fst (column : Column) (diagnostics other : Diagnostics) (child : Node) :
    (addComputed (column, diagnostics) child).1 = (addComputed (column, other) child).1 := by
  cases child with
  | caseExpression operand clauses =>
    cases clauses with
    | nil => rfl
    | cons clause =>
      unfold addComputed caseType
      dsimp only
      split <;> rfl
  | call function arguments sql =>
    unfold addComputed
    dsimp only
    rw [callReference_fst function arguments sql diagnostics other]
  | _ => rfl

theorem addComputed_snd (state : Column × Diagnostics) (child : Node) :
    (addComputed state child).2 = state.2.note ((computedReports child).map .unknown) := by
  obtain ⟨column, diagnostics⟩ := state
  cases child with
  | caseExpression operand clauses otherwise sql =>
    cases clauses with
    | nil => exact Diagnostics.unknown_eq_note diagnostics (.caseExpression operand [] otherwise sql)
    | cons clause =>
      unfold addComputed caseType
      dsimp only
      split <;> exact (Diagnostics.note_nil _).symm
  | call function arguments sql => exact callReference_snd ..
  | identifier | columnRef | constraint | primaryKey => exact (Diagnostics.note_nil _).symm
  | _ => exact Diagnostics.unknown_eq_note ..

/-- The column of a declaration with `AS`, whatever the notices of its table. -/
def computedValue (children : List Node) (sql : String) : Column :=
  (computedColumn children sql { path := "", isTracing := false }).1

theorem computedColumn_fst (children : List Node) (sql : String) (diagnostics : Diagnostics) :
    (computedColumn children sql diagnostics).1 = computedValue children sql := by
  refine List.foldl_rel (r := fun state other : Column × Diagnostics => state.1 = other.1) rfl ?_
  rintro child _ ⟨column, before⟩ ⟨_, other⟩ rfl
  exact addComputed_fst column before other child

theorem addComputed_isComputed (state : Column × Diagnostics) (child : Node) :
    (addComputed state child).1.isComputed = state.1.isComputed := by
  cases child <;> rfl

theorem isComputed_computedValue (children : List Node) (sql : String) :
    (computedValue children sql).isComputed = true :=
  List.foldlRecOn (motive := fun state : Column × Diagnostics => state.1.isComputed = true) children
    addComputed rfl fun state computed child _ => (addComputed_isComputed state child).trans computed

theorem computedColumn_snd (children : List Node) (sql : String) (diagnostics : Diagnostics) :
    (computedColumn children sql diagnostics).2 =
      diagnostics.note ((children.flatMap computedReports).map .unknown ++
        [.trace (columnMessage (computedValue children sql))]) := by
  have reported := Diagnostics.foldl_eq_note Prod.snd addComputed
    (fun child => (computedReports child).map .unknown) addComputed_snd children
    ({ sql, isComputed := true }, diagnostics)
  have message : columnMessage (computedValue children sql) =
      (computedColumn children sql diagnostics).1.name ++ " " ++
        (computedColumn children sql diagnostics).1.sql := by
    rw [computedColumn_fst, columnMessage, isComputed_computedValue]
    rfl
  rw [message, ← Diagnostics.note_note, List.map_flatMap, ← reported, ← Diagnostics.trace_eq_note]
  rfl

/-! ## Elements -/

/-- The columns that an element declares. -/
def elementColumns : Node → List Column
  | .column children sql => [columnValue children sql]
  | .computedColumn children sql => [computedValue children sql]
  | _ => []

/-- What is noticed about an element: the reports first, then the trace of its column. -/
def elementNotices (element : Node) : List Notice :=
  ((elementParts element).flatMap Part.reports).map .unknown ++
    (elementColumns element).map fun column => .trace (columnMessage column)

theorem addElement_columns (state : Table × Diagnostics) (element : Node) :
    (addElement state element).1.columns = state.1.columns ++ elementColumns element := by
  cases element with
  | column children sql => simp [addElement, elementColumns, column_column]
  | computedColumn children sql => simp [addElement, elementColumns, computedColumn_fst]
  | _ => simp [addElement, elementColumns]

theorem addElement_fst (table : Table) (diagnostics other : Diagnostics) (element : Node) :
    (addElement (table, diagnostics) element).1 = (addElement (table, other) element).1 := by
  cases element with
  | column children sql =>
    simp [addElement, column_column, column_key children sql table.primaryKey diagnostics other]
  | computedColumn children sql => simp [addElement, computedColumn_fst]
  | _ => rfl

theorem reportKey_eq_note (diagnostics : Diagnostics) (children : List Node) :
    reportKey diagnostics children =
      diagnostics.note ((children.flatMap keyReports).map .unknown) := by
  rw [List.map_flatMap]
  refine Diagnostics.foldl_eq_note id _ _ (fun diagnostics child => ?_) children diagnostics
  cases child with
  | indexedColumn | identifier | indexOption => exact (Diagnostics.note_nil _).symm
  | _ => exact Diagnostics.unknown_eq_note ..

theorem addElement_snd (state : Table × Diagnostics) (element : Node) :
    (addElement state element).2 = state.2.note (elementNotices element) := by
  obtain ⟨table, diagnostics⟩ := state
  unfold elementNotices
  cases element with
  | column children sql =>
    simp [addElement, column_diagnostics, elementParts, elementColumns, Part.reports,
      List.flatMap_map]
  | computedColumn children sql =>
    simp [addElement, computedColumn_snd, elementParts, elementColumns, Part.reports,
      List.flatMap_map]
  | primaryKey children sql =>
    simp [addElement, reportKey_eq_note, elementParts, elementColumns, Part.reports]
  | constraint => simp [addElement, elementParts, elementColumns, Part.reports]
  | _ => simp [addElement, Diagnostics.unknown_eq_note, elementParts, elementColumns, Part.reports]

/-! ## Tables -/

/-- What is traced of a table. -/
def tableMessage (statement : CreateTable) : String :=
  "[" ++ statement.schema ++ "].[" ++ statement.name ++ "] " ++ statement.definition.sql

/-- What is noticed about a statement. -/
def notices (statement : CreateTable) : List Notice :=
  .trace (tableMessage statement) :: statement.definition.children.flatMap elementNotices

theorem table_fst (statement : CreateTable) (diagnostics other : Diagnostics) :
    (table statement diagnostics).1 = (table statement other).1 := by
  refine List.foldl_rel (r := fun state other : Table × Diagnostics => state.1 = other.1) rfl ?_
  rintro element _ ⟨table, before⟩ ⟨_, other⟩ rfl
  exact addElement_fst table before other element

theorem table_columns (statement : CreateTable) (diagnostics : Diagnostics) :
    (table statement diagnostics).1.columns =
      statement.definition.children.flatMap elementColumns := by
  have run (elements : List Node) (state : Table × Diagnostics) :
      (elements.foldl addElement state).1.columns =
        state.1.columns ++ elements.flatMap elementColumns := by
    induction elements generalizing state with
    | nil => simp
    | cons element elements induction =>
      rw [List.foldl_cons, induction, addElement_columns, List.append_assoc, List.flatMap_cons]
  exact run statement.definition.children _

theorem table_snd (statement : CreateTable) (diagnostics : Diagnostics) :
    (table statement diagnostics).2 = diagnostics.note (notices statement) := by
  have message : tableMessage statement =
      ({ schema := statement.schema, name := statement.name, sql := statement.sql } :
        Table).qualifiedName ++ " " ++ statement.definition.sql := by
    simp [tableMessage, Table.qualifiedName, String.append_assoc]
  have run := Diagnostics.foldl_eq_note Prod.snd addElement elementNotices addElement_snd
    statement.definition.children
  unfold table notices
  dsimp only
  rw [run, Diagnostics.trace_eq_note, Diagnostics.note_note, message]
  rfl

/-- Extracting several statements gives the table of each, and the notices about each in order. -/
theorem tables_eq (statements : List CreateTable) (diagnostics other : Diagnostics) :
    tables statements diagnostics =
      (statements.map fun statement => (table statement other).1,
        diagnostics.note (statements.flatMap notices)) := by
  induction statements generalizing diagnostics with
  | nil => simp [tables]
  | cons statement statements induction =>
    unfold tables
    dsimp only
    rw [induction, table_fst statement diagnostics other, table_snd]
    simp

/-! ## Warnings and traces -/

theorem filter_isWarning_entries (path : String) (isTracing : Bool) (notices : List Notice) :
    (notices.flatMap (Notice.entries path isTracing)).filter Diagnostic.isWarning =
      (notices.filterMap Notice.node?).map (Diagnostic.unknown path) := by
  induction notices with
  | nil => rfl
  | cons notice notices induction =>
    rw [List.flatMap_cons, List.filter_append, induction, Notice.filter_isWarning_entries]
    cases notice <;> rfl

theorem filter_not_isWarning_entries (path : String) (notices : List Notice) :
    (notices.flatMap (Notice.entries path true)).filter (fun entry => !entry.isWarning) =
      (notices.filterMap Notice.message?).map (Diagnostic.trace path) := by
  induction notices with
  | nil => rfl
  | cons notice notices induction =>
    rw [List.flatMap_cons, List.filter_append, induction, Notice.filter_not_isWarning_entries]
    cases notice <;> rfl

theorem filterMap_node?_elementNotices (element : Node) :
    (elementNotices element).filterMap Notice.node? =
      (elementParts element).flatMap Part.reports := by
  simp [elementNotices, List.filterMap_map, Function.comp_def, Notice.node?]

theorem filterMap_message?_elementNotices (element : Node) :
    (elementNotices element).filterMap Notice.message? =
      (elementColumns element).map columnMessage := by
  simp [elementNotices, List.filterMap_map, Function.comp_def, Notice.message?]

theorem filterMap_node?_notices (statement : CreateTable) :
    (notices statement).filterMap Notice.node? = (parts statement).flatMap Part.reports := by
  simp only [notices, parts, List.filterMap_cons, Notice.node?, List.filterMap_flatMap,
    filterMap_node?_elementNotices, List.flatMap_assoc]

/-- Only what no rule covers is reported, and it is reported once. -/
theorem Part.reports_eq_of_unknown {part : Part} {typeName sql : String}
    (isUnknown : part.node = .unknown typeName sql) :
    part.reports = [.unknown typeName sql] := by
  cases part <;> cases isUnknown <;> rfl

/-- Statements that are extracted one after the other are extracted as if each were alone: the
tables are the same with and without traces, the notices come in the order of the statements, and
traces never change the warnings. Without traces there are only warnings; with them, the notices
about a statement begin with the trace of its table, and the other traces are those of its columns.
The warnings of a statement go through its parts in order, with one for each unknown part. -/
theorem tables_apart (statements : List CreateTable) (path : String) (isTracing : Bool) :
    let fresh (isTracing : Bool) : Diagnostics := { path, isTracing }
    let entries (isTracing : Bool) := (tables statements (fresh isTracing)).2.entries
    (∀ other, (tables statements (fresh isTracing)).1 =
      statements.map fun statement => (table statement (fresh other)).1) ∧
    entries isTracing =
      statements.flatMap (fun statement => (table statement (fresh isTracing)).2.entries) ∧
    (entries true).filter Diagnostic.isWarning = (entries false).filter Diagnostic.isWarning ∧
    (∀ entry ∈ entries false, entry.isWarning = true) ∧
    (∀ statement, ∃ later,
      (table statement (fresh true)).2.entries =
        .trace path (tableMessage statement) :: later ∧
      later.filter (fun entry => !entry.isWarning) =
        (table statement (fresh true)).1.columns.map fun column =>
          .trace path (columnMessage column)) ∧
    (∀ statement, (table statement (fresh isTracing)).2.entries.filter Diagnostic.isWarning =
      (parts statement).flatMap fun part => part.reports.map (.unknown path)) ∧
    ∀ (part : Part) (typeName sql : String), part.node = .unknown typeName sql →
      part.reports = [.unknown typeName sql] := by
  intro fresh entries
  have entries_eq (isTracing : Bool) : entries isTracing =
      (statements.flatMap notices).flatMap (Notice.entries path isTracing) := by
    simp only [entries, fresh]
    rw [tables_eq statements _ { path, isTracing }]
    rfl
  have table_entries (statement : CreateTable) (isTracing : Bool) :
      (table statement (fresh isTracing)).2.entries =
        (notices statement).flatMap (Notice.entries path isTracing) := by
    rw [table_snd]
    rfl
  refine ⟨fun other => ?_, ?_, ?_, ?_, fun statement => ?_, fun statement => ?_,
    fun _ _ _ => Part.reports_eq_of_unknown⟩
  · rw [tables_eq statements (fresh isTracing) (fresh other)]
  · simp only [entries_eq, table_entries, List.flatMap_assoc]
  · rw [entries_eq, entries_eq, filter_isWarning_entries, filter_isWarning_entries]
  · intro entry member
    rw [entries_eq] at member
    obtain ⟨notice, -, member⟩ := List.mem_flatMap.mp member
    exact Notice.isWarning_of_mem_entries member
  · refine ⟨(statement.definition.children.flatMap elementNotices).flatMap
      (Notice.entries path true), by rw [table_entries]; rfl, ?_⟩
    rw [filter_not_isWarning_entries, table_columns, List.filterMap_flatMap]
    simp only [filterMap_message?_elementNotices, List.map_flatMap, List.map_map]
    rfl
  · rw [table_entries, filter_isWarning_entries, filterMap_node?_notices, List.map_flatMap]

end Extraction

end SqlSchema
