import SqlSchema.Proofs.KeyMarks

/-!
The column that identifies a row. Where the names of columns do not repeat, the key names columns of
the table and at most one of them is an identity, exactly one column of a table with a key
identifies a row, and no column does so in a table without a key.
-/

namespace SqlSchema

namespace Table

/-- Whether a column of the table identifies a row. -/
def identifiesRow (table : Table) (column : Column) : Bool :=
  if table.hasCompositeKey then
    if table.hasIdentity then column.isIdentity
    else table.primaryKey.first?.any fun first => namesMatch column.name first
  else column.isPrimaryKey

theorem isIdColumn_eq_any (table : Table) (name : String) :
    table.isIdColumn name = (table.column? name).any table.identifiesRow := by
  unfold isIdColumn
  cases table.column? name <;> rfl

/-- Whether every name of the key is the name of a column. -/
def KeyNamesColumns (table : Table) : Prop :=
  ∀ name ∈ table.primaryKey.names, ∃ column ∈ table.columns, namesMatch column.name name = true

instance (table : Table) : Decidable table.KeyNamesColumns :=
  inferInstanceAs (Decidable (∀ name ∈ table.primaryKey.names, _))

/-! ## Distinct names -/

theorem HasDistinctNames.column?_eq_some_iff {table : Table} (distinct : table.HasDistinctNames)
    {name : String} {column : Column} :
    table.column? name = some column ↔
      column ∈ table.columns ∧ namesMatch column.name name = true := by
  constructor
  · intro found
    exact ⟨List.mem_of_find?_eq_some found, by simpa using List.find?_some found⟩
  · rintro ⟨member, same⟩
    cases found : table.column? name with
    | none => exact absurd same (List.find?_eq_none.mp found column member)
    | some first =>
      have firstSame : namesMatch first.name name = true := by simpa using List.find?_some found
      have firstMember : first ∈ table.columns := List.mem_of_find?_eq_some found
      rw [distinct.eq_of_namesMatch firstMember member
        (namesMatch_trans firstSame (namesMatch_symm same))]

/-- Only one place in the table has a column whose name matches that of `column`. -/
theorem HasDistinctNames.filter_namesMatch {table : Table} (distinct : table.HasDistinctNames)
    {column : Column} (member : column ∈ table.columns) :
    table.columns.filter (fun other => namesMatch column.name other.name) = [column] := by
  obtain ⟨front, back, whole⟩ := List.append_of_mem member
  have apart := distinct
  rw [HasDistinctNames, whole, List.pairwise_append, List.pairwise_cons] at apart
  obtain ⟨-, ⟨later, -⟩, earlier⟩ := apart
  have notBefore : front.filter (fun other => namesMatch column.name other.name) = [] := by
    refine List.filter_eq_nil_iff.mpr fun other otherMember => ?_
    rw [namesMatch, Text.equalIgnoringCase_comm]
    exact Bool.eq_false_iff.mp (earlier other otherMember column List.mem_cons_self)
  have notAfter : back.filter (fun other => namesMatch column.name other.name) = [] :=
    List.filter_eq_nil_iff.mpr fun other otherMember =>
      Bool.eq_false_iff.mp (later other otherMember)
  rw [whole, List.filter_append, notBefore, List.filter_cons, notAfter, List.nil_append,
    if_pos (Text.equalIgnoringCase_refl column.name)]

/-- If one column alone identifies a row, then exactly the names that match its name do. -/
theorem HasDistinctNames.isIdColumn_eq {table : Table} (distinct : table.HasDistinctNames)
    {column : Column} (member : column ∈ table.columns)
    (only : ∀ other ∈ table.columns, table.identifiesRow other = true ↔ other = column)
    (name : String) : table.isIdColumn name = namesMatch column.name name := by
  rw [isIdColumn_eq_any, Bool.eq_iff_iff, Option.any_eq_true]
  constructor
  · rintro ⟨other, found, identifies⟩
    obtain ⟨otherMember, same⟩ := distinct.column?_eq_some_iff.mp found
    rwa [← (only other otherMember).mp identifies]
  · intro same
    exact ⟨column, distinct.column?_eq_some_iff.mpr ⟨member, same⟩,
      (only column member).mpr rfl⟩

end Table

namespace Accepts

variable {source path : String} {options : ReadingOptions} {table : Table}

/-! ## The rules -/

/-- Without a key no column identifies a row. -/
theorem identifiesRow_eq_false (accepted : Accepts source path options table)
    (noKey : table.primaryKey.names = []) :
    ∀ column ∈ table.columns, table.identifiesRow column = false := by
  intro column member
  have simple : table.hasCompositeKey = false := by
    simp [Table.hasCompositeKey, Key.size, noKey]
  rw [Table.identifiesRow, simple, if_neg Bool.false_ne_true, Bool.eq_false_iff]
  intro isKey
  have known := accepted.contains_of_isPrimaryKey column member isKey
  rw [Key.contains, noKey] at known
  cases known

/-- With a key one column alone identifies a row. -/
theorem exists_only_identifiesRow (accepted : Accepts source path options table)
    (distinct : table.HasDistinctNames) (named : table.KeyNamesColumns)
    (oneIdentity : table.columns.countP Column.isIdentity ≤ 1)
    (hasKey : table.primaryKey.names ≠ []) :
    ∃ column ∈ table.columns,
      ∀ other ∈ table.columns, table.identifiesRow other = true ↔ other = column := by
  obtain ⟨first, further, names⟩ := List.exists_cons_of_ne_nil hasKey
  obtain ⟨column, member, same⟩ := named first (by simp [names])
  -- The first name of the key stands for one column only.
  have namedFirst : ∀ other ∈ table.columns, namesMatch other.name first = true ↔
      other = column := by
    intro other otherMember
    constructor
    · intro otherSame
      exact distinct.eq_of_namesMatch otherMember member
        (namesMatch_trans otherSame (namesMatch_symm same))
    · rintro rfl
      exact same
  by_cases composite : table.hasCompositeKey = true
  · by_cases identity : table.hasIdentity = true
    · obtain ⟨marked, markedMember, isIdentity⟩ := List.any_eq_true.mp identity
      refine ⟨marked, markedMember, fun other otherMember => ?_⟩
      rw [Table.identifiesRow, if_pos composite, if_pos identity]
      constructor
      · intro otherIsIdentity
        have few : (table.columns.filter Column.isIdentity).length ≤ 1 :=
          List.countP_eq_length_filter ▸ oneIdentity
        have isOnly : marked ∈ table.columns.filter Column.isIdentity :=
          List.mem_filter.mpr ⟨markedMember, isIdentity⟩
        have otherIsOnly : other ∈ table.columns.filter Column.isIdentity :=
          List.mem_filter.mpr ⟨otherMember, otherIsIdentity⟩
        obtain ⟨single, whole⟩ :=
          List.length_eq_one_iff.mp (Nat.le_antisymm few (List.length_pos_of_mem isOnly))
        rw [whole, List.mem_singleton] at isOnly otherIsOnly
        rw [otherIsOnly, isOnly]
      · rintro rfl
        exact isIdentity
    · refine ⟨column, member, fun other otherMember => ?_⟩
      rw [Table.identifiesRow, if_pos composite, if_neg identity, Key.first?, names]
      exact namedFirst other otherMember
  · refine ⟨column, member, fun other otherMember => ?_⟩
    have only : table.primaryKey.names = [first] := by
      have few : further = [] := by
        simpa [Table.hasCompositeKey, Key.size, names, List.length_pos_iff] using composite
      rw [names, few]
    rw [Table.identifiesRow, if_neg composite,
      accepted.isPrimaryKey_eq_contains distinct other otherMember, ← namedFirst other otherMember,
      Key.contains, only, List.any_cons, List.any_nil, Bool.or_false, namesMatch,
      Text.equalIgnoringCase_comm]

end Accepts

/-! ## Exactly one column -/

/-- In an accepted table whose names do not repeat, whose key names columns and which has at most
one identity, no name denotes the column that identifies a row if there is no key. If there is one,
exactly one column does, and the names that denote it are those that match its name. -/
theorem isIdColumn_of_accepts {source path : String} {options : ReadingOptions} {table : Table}
    (accepted : Accepts source path options table) (distinct : table.HasDistinctNames)
    (named : table.KeyNamesColumns)
    (oneIdentity : table.columns.countP Column.isIdentity ≤ 1) :
    (table.primaryKey.names = [] → ∀ name, table.isIdColumn name = false) ∧
    (table.primaryKey.names ≠ [] → ∃ column,
      table.columns.filter (fun other => table.isIdColumn other.name) = [column] ∧
        ∀ name, table.isIdColumn name = namesMatch column.name name) := by
  constructor
  · intro noKey name
    rw [Table.isIdColumn_eq_any, Bool.eq_false_iff, ne_eq, Option.any_eq_true]
    rintro ⟨column, found, identifies⟩
    have none := accepted.identifiesRow_eq_false noKey column (List.mem_of_find?_eq_some found)
    rw [none] at identifies
    cases identifies
  · intro hasKey
    obtain ⟨column, member, only⟩ :=
      accepted.exists_only_identifiesRow distinct named oneIdentity hasKey
    have denotes := distinct.isIdColumn_eq member only
    refine ⟨column, ?_, denotes⟩
    simp only [denotes]
    exact distinct.filter_namesMatch member

/-- A key of two columns where the second is the identity. -/
theorem isIdColumn_of_accepts_identity :
    let source := "CREATE TABLE T (A INT, B INT IDENTITY, C INT, PRIMARY KEY (A, b))"
    let first : Column := { name := "A", dataType := "INT", isMarkedKey := true, sql := "A INT" }
    let second : Column :=
      { name := "B", dataType := "INT", isMarkedKey := true, isMarkedIdentity := true
        sql := "B INT IDENTITY" }
    let last : Column := { name := "C", dataType := "INT", sql := "C INT" }
    let table : Table :=
      { schema := "dbo", name := "T", sourcePath := "t.sql", sql := source
        columns := [first, second, last], primaryKey := .ofList ["A", "b"] }
    Accepts source "t.sql" {} table ∧ table.HasDistinctNames ∧ table.KeyNamesColumns ∧
      table.columns.countP Column.isIdentity ≤ 1 ∧ table.primaryKey.names ≠ [] ∧
      ∃ column, table.columns.filter (fun other => table.isIdColumn other.name) = [column] ∧
        ∀ name, table.isIdColumn name = namesMatch column.name name := by
  intro source first second last table
  have accepted : Accepts source "t.sql" {} table := by decide +kernel
  have distinct : table.HasDistinctNames := by decide +kernel
  have named : table.KeyNamesColumns := by decide +kernel
  have oneIdentity : table.columns.countP Column.isIdentity ≤ 1 := by decide +kernel
  have hasKey : table.primaryKey.names ≠ [] := by decide +kernel
  exact ⟨accepted, distinct, named, oneIdentity, hasKey,
    (isIdColumn_of_accepts accepted distinct named oneIdentity).2 hasKey⟩

end SqlSchema
