import SqlSchema.Proofs.Key
import SqlSchema.Proofs.Shape
import SqlSchema.Table.Extraction

/-!
What holds of every table that is extracted from a statement with the shape of a tree that was read:
which columns have a reference and of what type, and which columns are marked as part of the key.
-/

namespace SqlSchema.Extraction

/-- What holds at the start and is kept by every element holds of the extracted table. -/
theorem table_invariant {invariant : Table → Prop} {statement : CreateTable}
    (shape : statement.HasElements)
    (start : invariant { schema := statement.schema, name := statement.name, sql := statement.sql })
    (step : ∀ table diagnostics element, element.IsElement → invariant table →
      invariant (addElement (table, diagnostics) element).1) (diagnostics : Diagnostics) :
    invariant (table statement diagnostics).1 := by
  have run (elements : List Node) (elementShape : ∀ element ∈ elements, element.IsElement)
      (state : Table × Diagnostics) (holds : invariant state.1) :
      invariant (elements.foldl addElement state).1 := by
    induction elements generalizing state with
    | nil => exact holds
    | cons element elements induction =>
      apply induction
      · exact fun other member => elementShape other (List.mem_cons_of_mem _ member)
      · exact step state.1 state.2 element (elementShape element List.mem_cons_self) holds
  exact run statement.definition.children shape _ start

/-! ## Columns -/

/-- What holds of a column under construction after its name has been read: the name stays, a mark
means that the key has the name, and no constraint says that the column is a key. -/
structure ColumnState.IsNamed (name : String) (state : ColumnState) : Prop where
  name_eq : state.column.name = name
  marked : state.column.isMarkedKey = true → Text.isBlankText name = false →
    state.key.contains name = true
  constraint_ne : state.column.constraint ≠ .primaryKey
  reference_eq : state.column.referenceText = none

theorem ColumnState.IsNamed.add {name : String} {state : ColumnState}
    (named : state.IsNamed name) {option : Node} (shape : option.IsColumnOption) :
    (state.add option).IsNamed name := by
  obtain ⟨name_eq, marked, constraint_ne, reference_eq⟩ := named
  cases option with
  | identity | collation | unknown => exact ⟨name_eq, marked, constraint_ne, reference_eq⟩
  | constraint kind => exact ⟨name_eq, marked, shape, reference_eq⟩
  | primaryKey children =>
    unfold ColumnState.add
    dsimp only
    split
    · refine ⟨name_eq, fun _ notBlank => ?_, constraint_ne, reference_eq⟩
      refine Key.contains_insert.mpr (.inr ⟨?_, ?_⟩)
      · rwa [name_eq]
      · rw [name_eq]
        exact Text.equalIgnoringCase_refl name
    · exact ⟨name_eq, fun isMarked notBlank => Key.contains_merge.mpr (.inl (marked isMarked notBlank)),
        constraint_ne, reference_eq⟩
  | _ => cases shape

/-- A part of a column never takes a name out of the key. -/
theorem ColumnState.contains_add {state : ColumnState} {name : String}
    (known : state.key.contains name = true) (child : Node) :
    (state.add child).key.contains name = true := by
  cases child with
  | primaryKey children =>
    unfold ColumnState.add
    dsimp only
    split
    · exact Key.contains_insert.mpr (.inl known)
    · exact Key.contains_merge.mpr (.inl known)
  | _ => exact known

theorem ColumnState.contains_addAll {name : String} (children : List Node) (state : ColumnState)
    (known : state.key.contains name = true) :
    (children.foldl ColumnState.add state).key.contains name = true := by
  induction children generalizing state with
  | nil => exact known
  | cons child children induction => exact induction _ (contains_add known child)

theorem ColumnState.IsNamed.addAll {name : String} (options : List Node)
    (shape : ∀ option ∈ options, option.IsColumnOption) (state : ColumnState)
    (named : state.IsNamed name) : (options.foldl ColumnState.add state).IsNamed name := by
  induction options generalizing state with
  | nil => exact named
  | cons option options induction =>
    apply induction
    · exact fun other member => shape other (List.mem_cons_of_mem _ member)
    · exact named.add (shape option List.mem_cons_self)

/-- A column that was read is marked only under a name that the key has. -/
theorem column_isNamed {children : List Node} (parts : Node.AreColumnParts children) (sql : String)
    (key : Key) (diagnostics : Diagnostics) :
    ∃ name, (column children sql key diagnostics).IsNamed name := by
  obtain ⟨name, text, type, options, rfl, shape⟩ := parts
  refine ⟨name, ?_⟩
  let start : ColumnState :=
    [Node.identifier name text].foldl ColumnState.add { column := { sql }, key, diagnostics }
  have named : (type.toList.map Node.dataType |>.foldl ColumnState.add start).IsNamed name := by
    cases type <;> exact ⟨rfl, nofun, nofun, rfl⟩
  have all := named.addAll options shape
  obtain ⟨name_eq, marked, constraint_ne, reference_eq⟩ := all
  unfold column
  rw [List.foldl_cons, List.foldl_append]
  exact ⟨name_eq, marked, constraint_ne, reference_eq⟩

theorem contains_column {key : Key} {name : String} (known : key.contains name = true)
    (children : List Node) (sql : String) (diagnostics : Diagnostics) :
    (column children sql key diagnostics).key.contains name = true :=
  ColumnState.contains_addAll children _ known

/-! ## Computed columns -/

/-- What holds of a computed column under construction after its expression has been read: nothing
marks it as part of the key, and with a reference its type is open or unknown. -/
structure IsDerived (column : Column) : Prop where
  marked : column.isMarkedKey = false
  constraint_eq : column.constraint = .none
  type_of_reference : column.referenceText ≠ none →
    column.dataType = "" ∨ column.dataType = fallbackType

theorem IsDerived.isPrimaryKey_eq {column : Column} (derived : IsDerived column) :
    column.isPrimaryKey = false := by
  simp [Column.isPrimaryKey, derived.marked, derived.constraint_eq]

theorem isDerived_addComputed {column : Column} (derived : IsDerived column) {option : Node}
    (shape : option.IsColumnOption) (diagnostics : Diagnostics) :
    IsDerived (addComputed (column, diagnostics) option).1 := by
  obtain ⟨marked, constraint_eq, type_of_reference⟩ := derived
  cases option with
  | constraint | primaryKey => exact ⟨marked, constraint_eq, type_of_reference⟩
  | identity | collation | unknown => exact ⟨marked, constraint_eq, fun _ => .inr rfl⟩
  | _ => cases shape

theorem isDerived_value {column : Column} (marked : column.isMarkedKey = false)
    (constraint_eq : column.constraint = .none) (type_eq : column.dataType = "")
    (reference_eq : column.referenceText = none) (value : Node) (diagnostics : Diagnostics) :
    IsDerived (addComputed (column, diagnostics) value).1 := by
  cases value with
  | caseExpression =>
    exact ⟨marked, constraint_eq, fun referenced => absurd reference_eq referenced⟩
  | call | columnRef | identifier | constraint | primaryKey =>
    exact ⟨marked, constraint_eq, fun _ => .inl type_eq⟩
  | _ => exact ⟨marked, constraint_eq, fun _ => .inr rfl⟩

theorem computedColumn_isDerived {children : List Node} (parts : Node.AreComputedParts children)
    (sql : String) (diagnostics : Diagnostics) :
    IsDerived (computedColumn children sql diagnostics).1 := by
  obtain ⟨name, text, value, options, rfl, shape⟩ := parts
  have run (options : List Node) (shape : ∀ option ∈ options, option.IsColumnOption)
      (state : Column × Diagnostics) (derived : IsDerived state.1) :
      IsDerived (options.foldl addComputed state).1 := by
    induction options generalizing state with
    | nil => exact derived
    | cons option options induction =>
      apply induction
      · exact fun other member => shape other (List.mem_cons_of_mem _ member)
      · exact isDerived_addComputed derived (shape option List.mem_cons_self) state.2
  let column : Column := { name, sql, isComputed := true }
  have start : IsDerived (addComputed (column, diagnostics) value).1 :=
    isDerived_value rfl rfl rfl rfl value diagnostics
  exact run options shape _ start

/-! ## Tables -/

/-- Every column with a reference has an open or an unknown type. -/
theorem dataType_of_reference {statement : CreateTable} (shape : statement.HasElements)
    (diagnostics : Diagnostics) :
    ∀ column ∈ (table statement diagnostics).1.columns, column.reference? ≠ none →
      column.dataType = "" ∨ column.dataType = fallbackType := by
  let invariant (table : Table) : Prop :=
    ∀ column ∈ table.columns, column.referenceText ≠ none →
      column.dataType = "" ∨ column.dataType = fallbackType
  have holds : invariant (table statement diagnostics).1 := by
    refine table_invariant shape (by simp [invariant]) ?_ diagnostics
    intro table diagnostics element elementShape known
    cases element with
    | column children sql =>
      intro other member referenced
      rcases List.mem_append.mp member with member | member
      · exact known other member referenced
      · obtain ⟨name, named⟩ := column_isNamed elementShape sql table.primaryKey diagnostics
        rw [List.mem_singleton.mp member] at referenced
        exact absurd named.reference_eq referenced
    | computedColumn children sql =>
      intro other member referenced
      rcases List.mem_append.mp member with member | member
      · exact known other member referenced
      · rw [List.mem_singleton.mp member] at referenced ⊢
        exact (computedColumn_isDerived elementShape sql diagnostics).type_of_reference referenced
    | primaryKey | constraint | unknown => exact known
    | _ => cases elementShape
  intro column member referenced
  refine holds column member fun none => referenced ?_
  simp [Column.reference?, none]

/-- Every column that is marked as part of the key has a blank name or one that the key has. -/
theorem contains_of_isPrimaryKey {statement : CreateTable} (shape : statement.HasElements)
    (diagnostics : Diagnostics) :
    ∀ column ∈ (table statement diagnostics).1.columns, column.isPrimaryKey = true →
      Text.isBlankText column.name = false →
      (table statement diagnostics).1.primaryKey.contains column.name = true := by
  let invariant (table : Table) : Prop :=
    ∀ column ∈ table.columns, column.isPrimaryKey = true → Text.isBlankText column.name = false →
      table.primaryKey.contains column.name = true
  suffices holds : invariant (table statement diagnostics).1 from holds
  refine table_invariant shape (by simp [invariant]) ?_ diagnostics
  intro table diagnostics element elementShape known
  cases element with
  | column children sql =>
    intro other member isKey notBlank
    rcases List.mem_append.mp member with member | member
    · exact contains_column (known other member isKey notBlank) children sql diagnostics
    · obtain ⟨name, named⟩ := column_isNamed elementShape sql table.primaryKey diagnostics
      rw [List.mem_singleton.mp member] at isKey notBlank ⊢
      have isMarked :
          (column children sql table.primaryKey diagnostics).column.isMarkedKey = true := by
        simpa [Column.isPrimaryKey, named.constraint_ne] using isKey
      have contained := named.marked isMarked (by rwa [named.name_eq] at notBlank)
      rwa [← named.name_eq] at contained
  | computedColumn children sql =>
    intro other member isKey notBlank
    rcases List.mem_append.mp member with member | member
    · exact known other member isKey notBlank
    · have derived := computedColumn_isDerived elementShape sql diagnostics
      rw [List.mem_singleton.mp member] at isKey
      exact absurd (isKey.symm.trans derived.isPrimaryKey_eq) nofun
  | primaryKey children =>
    intro other member isKey notBlank
    exact Key.contains_merge.mpr (.inl (known other member isKey notBlank))
  | constraint | unknown => exact known
  | _ => cases elementShape

end SqlSchema.Extraction
