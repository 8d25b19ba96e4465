import SqlSchema.Proofs.ReferenceTypes

/-!
Computed columns that are a `CONVERT`. Their type stands in the same place as the name of a column
would, so such a column has the type of its `CONVERT` unless some column of the table is called like
the type; in that case it follows that column.
-/

namespace SqlSchema

/-! ## Lists around an element -/

theorem eq_take_append_cons_drop {α : Type} {items : List α} {index : Nat} {item : α}
    (found : items[index]? = some item) :
    items = items.take index ++ item :: items.drop (index + 1) := by
  obtain ⟨bound, rfl⟩ := List.getElem?_eq_some_iff.mp found
  rw [← List.drop_eq_getElem_cons bound, List.take_append_drop]

/-- An element that a test refuses can be left out of a list before it is filtered. -/
theorem filter_eraseIdx_of_neg {α : Type} {holds : α → Bool} {items : List α} {index : Nat}
    {item : α} (found : items[index]? = some item) (fails : holds item = false) :
    (items.eraseIdx index).filter holds = items.filter holds := by
  calc (items.eraseIdx index).filter holds
    _ = (items.take index ++ item :: items.drop (index + 1)).filter holds := by
      rw [List.eraseIdx_eq_take_drop_succ, List.filter_append, List.filter_append,
        List.filter_cons_of_neg (by simpa using fails)]
    _ = items.filter holds := by rw [← eq_take_append_cons_drop found]

/-! ## Conversions -/

/-- The name of a computed column that is a `CONVERT`, and the type that it converts to. -/
def Node.conversion? : Node → Option (String × DataType)
  | .computedColumn (.identifier name _ :: .call function (.dataType type :: _) _ :: _) _ =>
    if Text.upperCaseIs function "CONVERT" then some (name, type) else none
  | _ => none

theorem Node.eq_of_conversion? {element : Node} {name : String} {type : DataType}
    (converts : element.conversion? = some (name, type)) :
    ∃ text function arguments callSql options sql,
      element = .computedColumn
        (.identifier name text :: .call function (.dataType type :: arguments) callSql :: options)
        sql ∧ Text.upperCaseIs function "CONVERT" = true := by
  unfold conversion? at converts
  split at converts
  · split at converts
    · rename_i isConvert
      cases converts
      exact ⟨_, _, _, _, _, _, rfl, isConvert⟩
    · cases converts
  · cases converts

namespace Extraction

/-! ## Places of columns -/

/-- Whether an element of a table declares a column. -/
def declaresColumn : Node → Bool
  | .column .. | .computedColumn .. => true
  | _ => false

theorem exists_columns_addElement (state : Table × Diagnostics) (element : Node) :
    ∃ added, (addElement state element).1.columns = state.1.columns ++ added ∧
      added.length = [element].countP declaresColumn := by
  cases element with
  | column | computedColumn => exact ⟨[_], rfl, rfl⟩
  | _ => exact ⟨[], (List.append_nil _).symm, rfl⟩

/-- Every element that declares a column adds one at the end. -/
theorem exists_columns_addElements (elements : List Node) (state : Table × Diagnostics) :
    ∃ added, (elements.foldl addElement state).1.columns = state.1.columns ++ added ∧
      added.length = elements.countP declaresColumn := by
  induction elements generalizing state with
  | nil => exact ⟨[], (List.append_nil _).symm, rfl⟩
  | cons element elements induction =>
    obtain ⟨first, firstColumns, firstLength⟩ := exists_columns_addElement state element
    obtain ⟨later, laterColumns, laterLength⟩ := induction (addElement state element)
    refine ⟨first ++ later, ?_, ?_⟩
    · rw [List.foldl_cons, laterColumns, firstColumns, List.append_assoc]
    · rw [List.length_append, firstLength, laterLength, ← List.countP_append,
        List.singleton_append]

/-- A computed column stands in the table after the columns that are declared before it. -/
theorem exists_getElem?_computedColumn {statement : CreateTable} {index : Nat}
    {children : List Node} {sql : String}
    (found : statement.definition.children[index]? = some (.computedColumn children sql))
    (diagnostics : Diagnostics) :
    ∃ earlier, (table statement diagnostics).1.columns[
        (statement.definition.children.take index).countP declaresColumn]? =
      some (computedColumn children sql earlier).1 := by
  let element : Node := .computedColumn children sql
  let before := statement.definition.children.take index
  let after := statement.definition.children.drop (index + 1)
  have elements : statement.definition.children = before ++ element :: after :=
    eq_take_append_cons_drop found
  obtain ⟨start, startColumns, run⟩ : ∃ start : Table × Diagnostics, start.1.columns = [] ∧
      table statement diagnostics = statement.definition.children.foldl addElement start :=
    ⟨_, rfl, rfl⟩
  rw [elements, List.foldl_append, List.foldl_cons] at run
  obtain ⟨earlier, earlierColumns, earlierLength⟩ := exists_columns_addElements before start
  obtain ⟨later, laterColumns, _⟩ :=
    exists_columns_addElements after (addElement (before.foldl addElement start) element)
  refine ⟨(before.foldl addElement start).2, ?_⟩
  have columns : (addElement (before.foldl addElement start) element).1.columns =
      earlier ++ [(computedColumn children sql (before.foldl addElement start).2).1] :=
    congrArg (· ++ _) (by rw [earlierColumns, startColumns, List.nil_append])
  rw [run, laterColumns, columns, ← earlierLength, List.append_assoc,
    List.getElem?_append_right (Nat.le_refl _), Nat.sub_self]
  rfl

/-! ## Computed columns -/

/-- Options of a computed column change neither its name nor its reference. -/
theorem addComputed_options {options : List Node}
    (shape : ∀ option ∈ options, option.IsColumnOption) (state : Column × Diagnostics) :
    (options.foldl addComputed state).1.name = state.1.name ∧
      (options.foldl addComputed state).1.referenceText = state.1.referenceText := by
  induction options generalizing state with
  | nil => exact ⟨rfl, rfl⟩
  | cons option options induction =>
    obtain ⟨optionShape, otherShape⟩ := List.forall_mem_cons.mp shape
    obtain ⟨name, reference⟩ := induction otherShape (addComputed state option)
    have kept : (addComputed state option).1.name = state.1.name ∧
        (addComputed state option).1.referenceText = state.1.referenceText := by
      cases option with
      | identity | collation | unknown | constraint | primaryKey => exact ⟨rfl, rfl⟩
      | _ => cases optionShape
    exact ⟨name.trans kept.1, reference.trans kept.2⟩

/-- A column that is a `CONVERT` has the type of it as its reference. -/
theorem computedColumn_convert {name text function callSql : String} {type : DataType}
    {arguments options : List Node}
    (shape : Node.AreComputedParts
      (.identifier name text :: .call function (.dataType type :: arguments) callSql :: options))
    (converts : Text.upperCaseIs function "CONVERT" = true) (sql : String)
    (diagnostics : Diagnostics) :
    let column := (computedColumn
      (.identifier name text :: .call function (.dataType type :: arguments) callSql :: options)
      sql diagnostics).1
    column.name = name ∧ column.referenceText = some type.name := by
  obtain ⟨_, _, _, _, same, optionsShape⟩ := shape
  obtain ⟨_, rfl⟩ := List.cons.inj (List.cons.inj same).2
  have reference (diagnostics : Diagnostics) :
      callReference function (.dataType type :: arguments) callSql diagnostics =
        (some type.name, diagnostics) := by
    simp [callReference, argumentReference, converts]
  let column : Column := { name, sql, isComputed := true, referenceText := some type.name }
  obtain ⟨sameName, sameReference⟩ := addComputed_options optionsShape (column, diagnostics)
  simp only [computedColumn, List.foldl_cons, addComputed, reference]
  exact ⟨sameName, sameReference⟩

end Extraction

/-- A column whose reference no column matches has the reference as its type. -/
theorem Table.dataType_resolve_of_dangling {table : Table} {column : Column}
    (member : column ∈ table.resolve.columns) {reference : String}
    (found : column.reference? = some reference)
    (dangling : table.resolve.column? reference = none) : column.dataType = reference := by
  let marked := markKeys table.primaryKey.names table.columns
  have known : HaveEndTypes marked table.columns.length table.resolve.columns :=
    haveEndTypes_settle marked table.columns.length
  have targets : Option.Rel Column.IsRetyped
      (marked.find? fun column => namesMatch column.name reference)
      (table.resolve.column? reference) :=
    (AreRetyped.settle table.columns.length marked).find? reference
  have nowhere : (marked.find? fun column => namesMatch column.name reference) = none := by
    cases leads : marked.find? fun column => namesMatch column.name reference with
    | none => rfl
    | some target =>
      rw [leads, dangling] at targets
      cases targets
  -- There is at least one pass, and the chain of the column ends after one step.
  obtain ⟨steps, length⟩ : ∃ steps, table.columns.length = steps + 1 := by
    apply Nat.exists_eq_add_one.mpr
    have sameLength := congrArg List.length table.map_name_resolve
    rw [List.length_map, List.length_map] at sameLength
    rw [← sameLength]
    exact List.length_pos_of_mem member
  rw [length] at known
  exact known column member reference (chainEnd_of_dangling found nowhere steps)

/-- What a test says about the only statement of a script. -/
theorem Grammar.exists_only_createTable {source defaultSchema : String} {holds : CreateTable → Bool}
    (checked : (readScript source defaultSchema).toOption.map
      (·.map (·.createTable?.any holds)) = some [true]) :
    ∃ statement, readScript source defaultSchema = .ok [.createTable statement] ∧
      holds statement = true := by
  obtain ⟨found, read, all⟩ := exists_of_toOption_map checked
  obtain ⟨parsed, rfl, only⟩ := List.map_eq_singleton_iff.mp all
  cases parsed with
  | createTable statement => exact ⟨statement, read, only⟩
  | other sql => cases only

/-- What a statement of a script yields is a table of the script. -/
theorem Accepts.of_process {source path : String} {options : ReadingOptions}
    {statements : List Statement}
    (read : Grammar.readScript source options.defaultSchema = .ok statements)
    {statement : CreateTable} (member : .createTable statement ∈ statements) {table : Table}
    (accepted : (statement.process path options.isTracing).result = .ok table) :
    Accepts source path options table := by
  have declared : statement ∈ statements.filterMap Statement.createTable? :=
    List.mem_filterMap.mpr ⟨.createTable statement, member, rfl⟩
  refine ⟨(statements.filterMap Statement.createTable?).map
    fun statement => statement.process path options.isTracing, ?_, _,
    List.mem_map.mpr ⟨statement, declared, rfl⟩, accepted⟩
  rw [readTables, read]
  rfl

/-- The table of a statement before it is validated. -/
def CreateTable.resolved (statement : CreateTable) (path : String) (isTracing : Bool) : Table :=
  ({ (Extraction.table statement { path, isTracing }).1 with sourcePath := path } : Table).resolve

theorem CreateTable.missingTypes_of_process {statement : CreateTable} {path : String}
    {isTracing : Bool} {defect : StructuralDefect}
    (refused : (statement.process path isTracing).result = .error defect) :
    defect.missingTypes = (statement.resolved path isTracing).missingTypes := by
  unfold process at refused
  dsimp only at refused
  split at refused
  · rename_i found
    cases refused
    unfold Table.defect? at found
    split at found
    · cases found
    · cases found
      rfl
  · cases refused

/-- A computed column that is a `CONVERT` to a type `T` has the type `T`, and so is none of the columns
without a type, whatever else the table has, if no column is called `T` in any case. Where columns
are called so, it has the type of the first of them if the table is accepted. -/
theorem dataType_of_convert {source path : String} {options : ReadingOptions}
    {statements : List Statement}
    (read : Grammar.readScript source options.defaultSchema = .ok statements)
    {statement : CreateTable} (member : .createTable statement ∈ statements)
    {index : Nat} {element : Node} (declared : statement.definition.children[index]? = some element)
    {name : String} {type : DataType} (converts : element.conversion? = some (name, type))
    (typed : Text.isBlankText type.name = false) :
    let outcome := statement.process path options.isTracing
    let table := statement.resolved path options.isTracing
    let place := (statement.definition.children.take index).countP Extraction.declaresColumn
    (∀ accepted, outcome.result = .ok accepted → accepted = table) ∧
      ∃ column, table.columns[place]? = some column ∧ column.name = name ∧
        match table.column? type.name with
        | none => column.dataType = type.name ∧
            ∀ defect, outcome.result = .error defect →
              defect.missingTypes = ({ table with columns := table.columns.eraseIdx place } :
                Table).missingTypes
        | some target => outcome.result = .ok table → column.dataType = target.dataType := by
  intro outcome table place
  obtain ⟨text, function, arguments, callSql, parts, sql, rfl, isConvert⟩ :=
    Node.eq_of_conversion? converts
  have shape : Node.IsElement (.computedColumn (.identifier name text ::
      .call function (.dataType type :: arguments) callSql :: parts) sql) :=
    Grammar.hasElements_of_readScript read statement member _ (List.mem_of_getElem? declared)
  obtain ⟨diagnostics, extractedFound⟩ :=
    Extraction.exists_getElem?_computedColumn declared { path, isTracing := options.isTracing }
  obtain ⟨extractedName, extractedReference⟩ :=
    Extraction.computedColumn_convert shape isConvert sql diagnostics
  have bound : place < table.columns.length := by
    have names := congrArg List.length (Table.map_name_resolve
      { (Extraction.table statement { path, isTracing := options.isTracing }).1 with
        sourcePath := path })
    rw [List.length_map, List.length_map] at names
    exact names ▸ (List.getElem?_eq_some_iff.mp extractedFound).1
  let column := table.columns[place]
  have found : table.columns[place]? = some column := List.getElem?_eq_getElem bound
  have columnMember : column ∈ table.columns := List.getElem_mem bound
  obtain ⟨original, originalFound, same⟩ := Table.exists_getElem?_of_resolve found
  obtain rfl : original = _ := Option.some.inj (originalFound.symm.trans extractedFound)
  have reference : column.reference? = some type.name := by
    rw [same.reference_eq]
    simp [Column.reference?, Column.markedIf, extractedReference, typed]
  refine ⟨fun accepted result => (CreateTable.eq_resolve_of_process result).1, column, found,
    same.name_eq.trans extractedName, ?_⟩
  cases leads : table.column? type.name with
  | none =>
    have dataType := Table.dataType_resolve_of_dangling columnMember reference leads
    refine ⟨dataType, fun defect refused => ?_⟩
    have present : Text.isBlankText column.dataType = false := by rw [dataType, typed]
    rw [CreateTable.missingTypes_of_process refused, Table.missingTypes, Table.missingTypes,
      filter_eraseIdx_of_neg found present]
  | some target =>
    intro result
    have accepted : Accepts source path options table := .of_process read member result
    have type := accepted.isSettled column columnMember type.name reference
    unfold referencedType at type
    unfold Table.column? at leads
    rwa [leads] at type

/-- A `CONVERT` in a table that is refused because another column takes its type from itself. -/
theorem dataType_of_convert_date :
    let source :=
      "CREATE TABLE T (A INT, PRIMARY KEY (A), C AS convert([date], A, 112) SPARSE, B AS (B))"
    ∃ statement column defect, Grammar.readScript source "dbo" = .ok [.createTable statement] ∧
      (statement.resolved "t.sql" false).columns[1]? = some column ∧ column.name = "C" ∧
      column.dataType = "date" ∧ (statement.process "t.sql" false).result = .error defect ∧
      defect.missingTypes = ["B"] := by
  intro source
  let type : DataType :=
    { schema? := none, name := "date", argument1 := none, argument2 := none, isMaximum := false
      sql := "[date]" }
  let isExpected (statement : CreateTable) : Prop :=
    let table := statement.resolved "t.sql" false
    statement.definition.children[2]?.bind Node.conversion? = some ("C", type) ∧
      (statement.definition.children.take 2).countP Extraction.declaresColumn = 1 ∧
      table.column? "date" = none ∧ (statement.process "t.sql" false).result.toOption = none ∧
      ({ table with columns := table.columns.eraseIdx 1 } : Table).missingTypes = ["B"]
  have script : ∃ statement, Grammar.readScript source "dbo" = .ok [.createTable statement] ∧
      decide (isExpected statement) = true :=
    Grammar.exists_only_createTable (by decide +kernel)
  obtain ⟨statement, read, expected⟩ := script
  obtain ⟨converts, place, nowhere, refused, others⟩ := of_decide_eq_true expected
  obtain ⟨element, declared, converts⟩ := Option.bind_eq_some_iff.mp converts
  obtain ⟨-, column, found, name, typed⟩ := @dataType_of_convert source "t.sql" {} _ read statement
    List.mem_cons_self 2 element declared "C" type converts (by decide +kernel)
  rw [place] at found typed
  have nowhere : (statement.resolved "t.sql" false).column? type.name = none := nowhere
  rw [nowhere] at typed
  cases result : (statement.process "t.sql" false).result with
  | ok table => simp [result, Except.toOption] at refused
  | error defect =>
    exact ⟨statement, column, defect, read, found, name, typed.1, result,
      (typed.2 defect result).trans others⟩

/-- A column that is called like the type: the `CONVERT` has the type of that column. -/
theorem dataType_ne_of_convert :
    let source := "CREATE TABLE T ([date] INT, C AS CONVERT(date, [date]))"
    ∃ statement element type table column,
      Grammar.readScript source "dbo" = .ok [.createTable statement] ∧
      statement.definition.children[1]? = some element ∧
      element.conversion? = some ("C", type) ∧ type.name = "date" ∧
      (statement.process "t.sql" false).result = .ok table ∧ table.columns[1]? = some column ∧
      column.name = "C" ∧ column.dataType = "INT" := by
  intro source
  let isExpected (statement : CreateTable) : Prop :=
    (statement.definition.children[1]?.bind Node.conversion?).map
        (fun conversion => (conversion.1, conversion.2.name)) = some ("C", "date") ∧
      ((statement.process "t.sql" false).result.toOption.bind (·.columns[1]?)).map
        (fun column => (column.name, column.dataType)) = some ("C", "INT")
  have script : ∃ statement, Grammar.readScript source "dbo" = .ok [.createTable statement] ∧
      decide (isExpected statement) = true :=
    Grammar.exists_only_createTable (by decide +kernel)
  obtain ⟨statement, read, expected⟩ := script
  obtain ⟨converts, result⟩ := of_decide_eq_true expected
  obtain ⟨⟨name, type⟩, converts, names⟩ := Option.map_eq_some_iff.mp converts
  obtain ⟨element, declared, converts⟩ := Option.bind_eq_some_iff.mp converts
  obtain ⟨rfl, typeName⟩ := Prod.mk.inj names
  obtain ⟨column, found, parts⟩ := Option.map_eq_some_iff.mp result
  obtain ⟨table, accepted, found⟩ := Option.bind_eq_some_iff.mp found
  obtain ⟨columnName, dataType⟩ := Prod.mk.inj parts
  exact ⟨statement, element, type, table, column, read, declared, converts, typeName,
    Grammar.toOption_eq_some.mp accepted, found, columnName, dataType⟩

end SqlSchema
