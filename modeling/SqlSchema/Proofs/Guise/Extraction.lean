import SqlSchema.Proofs.Guise.Table

/-!
Extraction from a statement in another guise. A child does to a column or a table what a child that
resembles it does to a column or a table with the same normal form, so two extractions side by side
keep the same normal form. The types that extraction itself gives to computed columns do not come
from the statement and are the same on both sides.
-/

namespace SqlSchema

namespace Extraction

variable {form : NormalForm}

theorem map_text_text (names : List String) :
    (names.map form.text).map form.text = names.map form.text :=
  List.map_map.trans (List.map_congr_left fun name _ => form.text_text name)

theorem listedColumns_eq {children children' : List Node}
    (same : List.Forall₂ (Node.Resembles form.toGuise) children children') :
    listedColumns children' = (listedColumns children).map form.text := by
  have listed {node node' : Node} {rest rest' : List Node}
      (same : Node.Resembles form.toGuise node node')
      (induction : listedColumns rest' = (listedColumns rest).map form.text) :
      listedColumns (node' :: rest') = (listedColumns (node :: rest)).map form.text := by
    cases same with
    | indexedColumn name shown => exact congrArg (form.text name :: ·) induction
    | _ => exact induction
  induction same with
  | nil => rfl
  | cons sameNode sameRest induction => exact listed sameNode induction

/-! ## Columns -/

/-- Whether the states have the same column and the same key in normal form. -/
structure ColumnState.SameNormal (form : NormalForm) (left right : ColumnState) : Prop where
  column : left.column.normal form = right.column.normal form
  key : left.key.seen form.toGuise = right.key.seen form.toGuise

theorem ColumnState.SameNormal.add {left right : ColumnState} (same : left.SameNormal form right)
    {child child' : Node} (resembles : Node.Resembles form.toGuise child child') :
    (left.add child).SameNormal form (right.add child') := by
  cases resembles with
  | identifier value shown =>
    refine ⟨?_, same.key⟩
    change { left.column.normal form with name := form.text value } =
      { right.column.normal form with name := form.text (form.text value) }
    rw [same.column, form.text_text]
  | @dataType type type' resembles =>
    refine ⟨?_, same.key⟩
    change
      { left.column.normal form with
        dataType := form.text type.name, argument1 := type.argument1
        argument2 := type.argument2 } =
      { right.column.normal form with
        dataType := form.text type'.name, argument1 := type'.argument1
        argument2 := type'.argument2 }
    have name : form.text type'.name = form.text type.name := by
      rw [resembles.name]
      exact form.text_text type.name
    rw [same.column, name, resembles.argument1, resembles.argument2]
  | identity shown =>
    refine ⟨?_, same.key⟩
    change { left.column.normal form with isMarkedIdentity := true } =
      { right.column.normal form with isMarkedIdentity := true }
    rw [same.column]
  | constraint kind shown =>
    refine ⟨?_, same.key⟩
    change { left.column.normal form with constraint := kind } =
      { right.column.normal form with constraint := kind }
    rw [same.column]
  | primaryKey sameChildren shown =>
    simp only [ColumnState.add, listedColumns_eq sameChildren]
    rename_i children children' sql sql'
    cases listedColumns children with
    | nil =>
      constructor
      · change { left.column.normal form with isMarkedKey := true } =
          { right.column.normal form with isMarkedKey := true }
        rw [same.column]
      · have name : form.text left.column.name = form.text right.column.name :=
          congrArg Column.name same.column
        change (left.key.insert left.column.name).seen form.toGuise =
          (right.key.insert right.column.name).seen form.toGuise
        rw [Key.seen_insert, Key.seen_insert, same.key]
        exact congrArg (right.key.seen form.toGuise).insert name
    | cons name names =>
      refine ⟨same.column, ?_⟩
      change (left.key.merge (name :: names)).seen form.toGuise =
        (right.key.merge ((name :: names).map form.text)).seen form.toGuise
      rw [Key.seen_merge, Key.seen_merge, same.key]
      exact congrArg (right.key.seen form.toGuise).merge (map_text_text (name :: names)).symm
  | _ => exact ⟨same.column, same.key⟩

theorem column_sameNormal {children children' : List Node}
    (resembles : List.Forall₂ (Node.Resembles form.toGuise) children children')
    {sql sql' : String} (shown : form.Shows sql sql') {left right : Key}
    (same : left.seen form.toGuise = right.seen form.toGuise)
    (diagnostics diagnostics' : Diagnostics) :
    (column children sql left diagnostics).SameNormal form
      (column children' sql' right diagnostics') := by
  have start : ColumnState.SameNormal form
      { column := { sql }, key := left, diagnostics }
      { column := { sql := sql' }, key := right, diagnostics := diagnostics' } := by
    refine ⟨?_, same⟩
    simp [Column.normal, form.sql_of_shows shown]
  have parts := List.rel_foldl (fun _ _ same _ _ resembles => same.add resembles) start resembles
  exact ⟨parts.column, parts.key⟩

/-! ## Computed columns -/

section

variable (diagnostics diagnostics' : Diagnostics)

theorem caseType_eq {clauses clauses' : List WhenClause}
    (same : List.Forall₂ (WhenClause.Resembles form.toGuise) clauses clauses')
    (sql sql' : String) :
    (caseType clauses' sql' diagnostics').1 = (caseType clauses sql diagnostics).1 := by
  cases same with
  | nil => rfl
  | cons sameClause sameClauses =>
    cases sameClause with
    | mk sameCondition sameResult shown => cases sameResult <;> rfl

theorem argumentReference_eq {argument argument' : Node}
    (same : Node.Resembles form.toGuise argument argument') :
    (argumentReference argument' diagnostics').1 =
      (argumentReference argument diagnostics).1.map form.text := by
  cases same with
  | dataType same => exact congrArg some same.name
  | _ => rfl

theorem callReference_eq (function : String) {arguments arguments' : List Node}
    (same : List.Forall₂ (Node.Resembles form.toGuise) arguments arguments')
    (sql sql' : String) :
    (callReference (form.text function) arguments' sql' diagnostics').1 =
      (callReference function arguments sql diagnostics).1.map form.text := by
  have blank (text : String) : Text.isBlankText (form.text text) = Text.isBlankText text :=
    form.isBlankText_see text
  unfold callReference
  simp only [form.upperCaseIs_text]
  cases same with
  | nil =>
    dsimp only
    split <;> rfl
  | @cons argument argument' others others' sameArgument sameOthers =>
    dsimp only
    rw [argumentReference_eq diagnostics diagnostics' sameArgument]
    split
    · rfl
    · cases (argumentReference argument diagnostics).1 with
      | none => rfl
      | some text =>
        simp only [Option.map_some, Option.filter_some, blank]
        cases Text.isBlankText text <;> rfl

end

theorem addComputed_normal {left right : Column × Diagnostics}
    (same : left.1.normal form = right.1.normal form) {child child' : Node}
    (resembles : Node.Resembles form.toGuise child child') :
    (addComputed left child).1.normal form = (addComputed right child').1.normal form := by
  have typed (type : String) : ({ left.1 with dataType := type } : Column).normal form =
      ({ right.1 with dataType := type } : Column).normal form := by
    change { left.1.normal form with dataType := form.text type } =
      { right.1.normal form with dataType := form.text type }
    rw [same]
  have referring (reference : Option String) :
      ({ left.1 with referenceText := reference } : Column).normal form =
        ({ right.1 with referenceText := reference.map form.text } : Column).normal form := by
    have twice : (reference.map form.text).map form.text = reference.map form.text := by
      cases reference with
      | none => rfl
      | some text => exact congrArg some (form.text_text text)
    change { left.1.normal form with referenceText := reference.map form.text } =
      { right.1.normal form with referenceText := (reference.map form.text).map form.text }
    rw [same, twice]
  cases resembles with
  | identifier value shown =>
    change { left.1.normal form with name := form.text value } =
      { right.1.normal form with name := form.text (form.text value) }
    rw [same, form.text_text]
  | caseExpression sameOperand sameClauses sameOtherwise shown =>
    simp only [addComputed]
    rw [caseType_eq left.2 right.2 sameClauses]
    exact typed _
  | call function sameArguments shown =>
    change ({ left.1 with referenceText := (callReference function _ _ left.2).1 } :
        Column).normal form =
      ({ right.1 with referenceText := (callReference (form.text function) _ _ right.2).1 } :
        Column).normal form
    rw [callReference_eq left.2 right.2 function sameArguments]
    exact referring _
  | columnRef name shown => exact referring (some name)
  | constraint kind shown => exact same
  | primaryKey sameChildren shown => exact same
  | _ => exact typed fallbackType

theorem computedColumn_normal {children children' : List Node}
    (resembles : List.Forall₂ (Node.Resembles form.toGuise) children children')
    {sql sql' : String} (shown : form.Shows sql sql') (diagnostics diagnostics' : Diagnostics) :
    (computedColumn children sql diagnostics).1.normal form =
      (computedColumn children' sql' diagnostics').1.normal form := by
  let start (sql : String) (diagnostics : Diagnostics) : Column × Diagnostics :=
    ({ sql, isComputed := true }, diagnostics)
  have same : (start sql diagnostics).1.normal form = (start sql' diagnostics').1.normal form := by
    simp [start, Column.normal, form.sql_of_shows shown]
  have parts := List.rel_foldl (R := Node.Resembles form.toGuise)
    (P := fun left right : Column × Diagnostics => left.1.normal form = right.1.normal form)
    (fun _ _ same _ _ resembles => addComputed_normal same resembles) same resembles
  exact parts

/-! ## Tables -/

theorem addElement_normal {left right : Table × Diagnostics}
    (same : left.1.normal form = right.1.normal form) {child child' : Node}
    (resembles : Node.Resembles form.toGuise child child') :
    (addElement left child).1.normal form = (addElement right child').1.normal form := by
  have columns : left.1.columns.map (Column.normal form) =
      right.1.columns.map (Column.normal form) := congrArg Table.columns same
  have key : left.1.primaryKey.seen form.toGuise = right.1.primaryKey.seen form.toGuise :=
    congrArg Table.primaryKey same
  have changed {leftColumns rightColumns : List Column} {leftKey rightKey : Key}
      (columns : leftColumns.map (Column.normal form) = rightColumns.map (Column.normal form))
      (key : leftKey.seen form.toGuise = rightKey.seen form.toGuise) :
      ({ left.1 with columns := leftColumns, primaryKey := leftKey } : Table).normal form =
        ({ right.1 with columns := rightColumns, primaryKey := rightKey } : Table).normal form := by
    change
      { left.1.normal form with
        columns := leftColumns.map (Column.normal form)
        primaryKey := leftKey.seen form.toGuise } =
      { right.1.normal form with
        columns := rightColumns.map (Column.normal form)
        primaryKey := rightKey.seen form.toGuise }
    rw [same, columns, key]
  cases resembles with
  | column sameChildren shown =>
    have added := column_sameNormal sameChildren shown key left.2 right.2
    refine changed ?_ added.key
    rw [List.map_append, List.map_append, columns, List.map_singleton, List.map_singleton,
      added.column]
  | computedColumn sameChildren shown =>
    have added := computedColumn_normal sameChildren shown left.2 right.2
    refine changed ?_ key
    rw [List.map_append, List.map_append, columns]
    exact congrArg (fun column => right.1.columns.map (Column.normal form) ++ [column]) added
  | @primaryKey children children' sql sql' sameChildren shown =>
    refine changed columns ?_
    rw [listedColumns_eq sameChildren, Key.seen_merge, Key.seen_merge, key]
    exact congrArg (right.1.primaryKey.seen form.toGuise).merge
      (map_text_text (listedColumns children)).symm
  | _ => exact same

/-- Statements that resemble each other have tables with the same normal form. -/
theorem table_normal {statement statement' : CreateTable}
    (resembles : statement.Resembles form.toGuise statement')
    (diagnostics diagnostics' : Diagnostics) :
    (table statement diagnostics).1.normal form =
      (table statement' diagnostics').1.normal form := by
  have schema : form.text statement'.schema = form.text statement.schema := by
    rw [resembles.schema]
    exact form.text_text statement.schema
  have name : form.text statement'.name = form.text statement.name := by
    rw [resembles.name]
    exact form.text_text statement.name
  have sql := form.sql_of_shows resembles.sql
  refine List.rel_foldl (R := Node.Resembles form.toGuise)
    (P := fun left right : Table × Diagnostics => left.1.normal form = right.1.normal form)
    (fun _ _ same _ _ resembles => addElement_normal same resembles) ?_
    resembles.definition.children
  simp [Table.normal, schema, name, sql]

end Extraction

/-! ## Statements -/

namespace CreateTable

variable (statement : CreateTable) (path : String) (isTracing : Bool)

/-- The table of a statement of the file `path`, resolved. -/
def resolvedTable : Table :=
  { (Extraction.table statement { path, isTracing }).1 with sourcePath := path }.resolve

theorem result_process :
    (statement.process path isTracing).result =
      match (statement.resolvedTable path isTracing).defect? with
      | some defect => .error defect
      | none => .ok (statement.resolvedTable path isTracing) :=
  rfl

variable {form : NormalForm}

theorem resolvedTable_normal {first second : CreateTable}
    (resembles : first.Resembles form.toGuise second) :
    (first.resolvedTable path isTracing).normal form =
      (second.resolvedTable path isTracing).normal form := by
  have extracted :=
    Extraction.table_normal resembles { path, isTracing } { path, isTracing }
  unfold resolvedTable
  rw [Table.normal_resolve, Table.normal_resolve]
  exact congrArg (fun table => { table with sourcePath := path }.resolve) extracted

/-- Statements whose tables have the same normal form yield these tables, or such tables have a
defect. -/
theorem process_normal {left right : CreateTable}
    (same : (left.resolvedTable path isTracing).normal form =
      (right.resolvedTable path isTracing).normal form) :
    SameOutcome (fun table table' => table.normal form = table'.normal form)
      (fun defect defect' => ∃ table table' : Table, table.normal form = table'.normal form ∧
        table.defect? = some defect ∧ table'.defect? = some defect')
      (left.process path isTracing).result (right.process path isTracing).result := by
  have defects : (left.resolvedTable path isTracing).defect? = none ↔
      (right.resolvedTable path isTracing).defect? = none := by
    rw [← Table.defect?_normal_eq_none_iff form, same, Table.defect?_normal_eq_none_iff]
  rw [result_process, result_process]
  cases found : (left.resolvedTable path isTracing).defect? with
  | none =>
    rw [defects.mp found]
    exact .ok same
  | some defect =>
    cases found' : (right.resolvedTable path isTracing).defect? with
    | none => simp [defects.mpr found'] at found
    | some defect' => exact .error ⟨_, _, same, found, found'⟩

end CreateTable

/-- The tables of statements that resemble each other, in normal form. -/
theorem map_resolvedTable_normal {form : NormalForm} {found found' : List Statement}
    (resembles : List.Forall₂ (Statement.Resembles form.toGuise) found found') (path : String)
    (isTracing : Bool) :
    ((found.filterMap Statement.createTable?).map fun statement =>
        (statement.resolvedTable path isTracing).normal form) =
      (found'.filterMap Statement.createTable?).map fun statement =>
        (statement.resolvedTable path isTracing).normal form := by
  induction resembles with
  | nil => rfl
  | cons same others induction =>
    cases same with
    | other shown => exact induction
    | createTable same =>
      exact congrArg₂ List.cons (CreateTable.resolvedTable_normal path isTracing same) induction

/-- Scripts that are alike have tables with the same normal forms. -/
theorem NormalForm.resolvedTable_of_alike (form : NormalForm) {found found' : List Statement}
    (alike : form.Alike found found') (path : String) (isTracing : Bool) :
    List.Forall₂
      (fun first second => (first.resolvedTable path isTracing).normal form =
        (second.resolvedTable path isTracing).normal form)
      (found.filterMap Statement.createTable?) (found'.filterMap Statement.createTable?) := by
  obtain ⟨middle, resembles, resembles'⟩ := alike
  apply forall₂_of_map_eq
  rw [map_resolvedTable_normal resembles, map_resolvedTable_normal resembles']

end SqlSchema
