import Mathlib.Data.List.Pairwise
import SqlSchema.Entity.Basic
import SqlSchema.Proofs.Extraction
import SqlSchema.Proofs.Outcome

/-!
Key marks of accepted tables and of their entities. Marks are set while columns are extracted and
again when the table is resolved; both times the key has the name of the column.
-/

namespace SqlSchema

namespace Column

theorem isPrimaryKey_markedIf (holds : Bool) (column : Column) :
    (column.markedIf holds).isPrimaryKey = (column.isPrimaryKey || holds) := by
  simp only [isPrimaryKey, markedIf]
  cases column.isMarkedKey <;> cases holds <;> simp

theorem IsRetyped.isPrimaryKey_eq {before after : Column} (retyped : before.IsRetyped after) :
    after.isPrimaryKey = before.isPrimaryKey := by
  rw [retyped.fields]
  rfl

end Column

/-- Whether no two columns have names that match. -/
def Table.HasDistinctNames (table : Table) : Prop :=
  table.columns.Pairwise fun left right => namesMatch left.name right.name = false

instance (table : Table) : Decidable table.HasDistinctNames :=
  inferInstanceAs (Decidable (List.Pairwise _ _))

theorem Table.HasDistinctNames.eq_of_namesMatch {table : Table} (distinct : table.HasDistinctNames)
    {left right : Column} (leftMember : left ∈ table.columns)
    (rightMember : right ∈ table.columns) (same : namesMatch left.name right.name = true) :
    left = right := by
  have apart : ∀ first ∈ table.columns, ∀ second ∈ table.columns, first ≠ second →
      namesMatch first.name second.name = false := by
    have symmetric : Std.Symm fun first second : Column =>
        namesMatch first.name second.name = false :=
      ⟨fun first second differ => by rwa [namesMatch, Text.equalIgnoringCase_comm]⟩
    exact fun first firstMember second secondMember =>
      List.Pairwise.forall distinct firstMember secondMember
  by_contra different
  rw [apart left leftMember right rightMember different] at same
  cases same

namespace Accepts

variable {source path : String} {options : ReadingOptions} {table : Table}

/-- A marked column has a name of the key. -/
theorem contains_of_isPrimaryKey (accepted : Accepts source path options table) :
    ∀ column ∈ table.columns, column.isPrimaryKey = true →
      table.primaryKey.contains column.name = true := by
  have notBlank := accepted.column_not_blank
  obtain ⟨statement, shape, extracted, equal, rfl, _⟩ := accepted.exists_statement
  intro column member isKey
  obtain ⟨index, found⟩ := List.mem_iff_getElem?.mp member
  obtain ⟨before, beforeFound, same⟩ := Table.exists_getElem?_of_resolve found
  have name : column.name = before.name := same.name_eq
  have blank := (notBlank column member).1
  rw [same.isPrimaryKey_eq, Column.isPrimaryKey_markedIf, Bool.or_eq_true, decide_eq_true_eq]
    at isKey
  rw [name] at blank ⊢
  rcases isKey with wasKey | ⟨known, knownMember, names⟩
  · subst equal
    exact Extraction.contains_of_isPrimaryKey shape _ before (List.mem_of_getElem? beforeFound)
      wasKey blank
  · obtain ⟨first, firstFound, matches?, _⟩ := namesColumn_iff.mp names
    obtain rfl : before = first := Option.some.inj (beforeFound.symm.trans firstFound)
    exact Key.contains_iff.mpr ⟨known, knownMember, namesMatch_symm matches?⟩

/-- The first column that a name of the key matches is marked. -/
theorem isPrimaryKey_of_column? (accepted : Accepts source path options table) :
    ∀ name ∈ table.primaryKey.names, ∀ column, table.column? name = some column →
      column.isPrimaryKey = true := by
  obtain ⟨statement, shape, extracted, equal, rfl, _⟩ := accepted.exists_statement
  intro name member column found
  obtain ⟨matches?, index, bound, rfl, before⟩ := List.find?_eq_some_iff_getElem.mp found
  have names : NamesColumn ({ extracted with sourcePath := path } : Table).resolve.columns name
      index := by
    refine namesColumn_iff.mpr ⟨_, List.getElem?_eq_getElem bound, matches?, ?_⟩
    intro earlier less other otherFound
    obtain ⟨_, rfl⟩ := List.getElem?_eq_some_iff.mp otherFound
    simpa using before earlier less
  obtain ⟨original, _, same⟩ := Table.exists_getElem?_of_resolve (List.getElem?_eq_getElem bound)
  rw [same.isPrimaryKey_eq, Column.isPrimaryKey_markedIf, Bool.or_eq_true, decide_eq_true_eq]
  exact .inr ⟨name, member, (namesColumn_congr (Table.map_name_resolve _)).mp names⟩

/-- Where no two columns have matching names, the marked columns are those that the key has. -/
theorem isPrimaryKey_eq_contains (accepted : Accepts source path options table)
    (distinct : table.HasDistinctNames) :
    ∀ column ∈ table.columns, column.isPrimaryKey = table.primaryKey.contains column.name := by
  intro column member
  apply Bool.eq_iff_iff.mpr
  constructor
  · exact accepted.contains_of_isPrimaryKey column member
  · intro contained
    obtain ⟨known, knownMember, same⟩ := Key.contains_iff.mp contained
    have same := namesMatch_symm same
    cases found : table.column? known with
    | none =>
      have none := List.find?_eq_none.mp found column member
      exact absurd same none
    | some first =>
      have firstMember : first ∈ table.columns := List.mem_of_find?_eq_some found
      have firstSame : namesMatch first.name known = true := by
        simpa using List.find?_some found
      have equal : first = column :=
        distinct.eq_of_namesMatch firstMember member
          (namesMatch_trans firstSame (namesMatch_symm same))
      rw [← equal]
      exact accepted.isPrimaryKey_of_column? known knownMember first found

end Accepts

/-! ## Entities -/

/-- Whether a field is that of a column in a struct whose types come from `types`. -/
structure EntityField.IsOf (types : TypeMap) (field : EntityField) (column : Column) : Prop where
  columnName : field.columnName = column.name
  isPrimaryKey : field.isPrimaryKey = column.isPrimaryKey
  isNullable : field.isNullable = column.isNullable
  type : types.columnType column = .ok field.type

namespace Entity

theorem forall₂_of_fieldsOf {types : TypeMap} {used : List String} {columns : List Column}
    {fields : List EntityField} (built : (fieldsOf types used columns).1 = .ok fields) :
    List.Forall₂ (EntityField.IsOf types) fields columns := by
  induction columns generalizing used fields with
  | nil =>
    cases built
    exact .nil
  | cons column columns induction =>
    unfold fieldsOf at built
    split at built
    · cases built
    rename_i name _
    split at built
    · cases built
    rename_i type typed
    obtain ⟨rest, restBuilt, rfl⟩ := Grammar.map_eq_ok.mp built
    exact .cons ⟨rfl, rfl, rfl, typed⟩ (induction restBuilt)

/-- The fields of an entity are those of the columns of its table, in their order, and its key is
that of the table. -/
theorem eq_of_ofTable {types : TypeMap} {table : Table} {entity : Entity}
    (built : ofTable types table = .ok entity) :
    List.Forall₂ (EntityField.IsOf types) entity.fields table.columns ∧
      entity.primaryKey = table.primaryKey.names := by
  obtain ⟨fields, fieldsBuilt, rest⟩ := Grammar.bind_eq_ok.mp built
  have fieldsOfColumns := forall₂_of_fieldsOf fieldsBuilt
  unfold withFields? at rest
  dsimp only at rest
  split at rest
  · cases rest
    exact ⟨fieldsOfColumns, rfl⟩
  · cases rest

end Entity

/-- The type of a column that has to have a value is not wrapped. -/
theorem TypeMap.ofText?_typeText {types : TypeMap} {column : Column} {type : CodeType}
    (required : column.isNullable = false) (found : types.columnType column = .ok type) :
    CodeType.ofText? (types.typeText column.dataType) = some type := by
  unfold columnType columnTypeText at found
  simp only [required, Bool.false_eq_true, if_false] at found
  split at found
  · rename_i found'
    cases found
    exact found'
  · cases found

/-! ## Agreement -/

/-- In an accepted table marks and key agree: a marked column has a name of the key, and of every
name of the key the first matching column is marked. Where names do not repeat the marks of columns,
and of the fields of an entity, are exactly the names of the key. A marked field has a value in every
row, so its type is not wrapped. -/
theorem key_marks_agree {source path : String} {options : ReadingOptions} {table : Table}
    (accepted : Accepts source path options table) :
    (∀ column ∈ table.columns, column.isPrimaryKey = true →
      table.primaryKey.contains column.name = true) ∧
    (∀ name ∈ table.primaryKey.names, ∀ column, table.column? name = some column →
      column.isPrimaryKey = true) ∧
    (table.HasDistinctNames → ∀ column ∈ table.columns,
      column.isPrimaryKey = table.primaryKey.contains column.name) ∧
    ∀ types entity, Entity.ofTable types table = .ok entity →
      (table.HasDistinctNames → ∀ field ∈ entity.fields,
        (field.isPrimaryKey = true ↔
          ∃ name ∈ entity.primaryKey, namesMatch name field.columnName = true)) ∧
      ∀ field ∈ entity.fields, field.isPrimaryKey = true →
        field.isNullable = false ∧
          ∃ column ∈ table.columns, column.name = field.columnName ∧
            CodeType.ofText? (types.typeText column.dataType) = some field.type := by
  refine ⟨accepted.contains_of_isPrimaryKey, accepted.isPrimaryKey_of_column?,
    accepted.isPrimaryKey_eq_contains, fun types entity built => ?_⟩
  obtain ⟨fieldsOfColumns, key⟩ := Entity.eq_of_ofTable built
  have columnOf (field : EntityField) (member : field ∈ entity.fields) :
      ∃ column ∈ table.columns, field.IsOf types column := by
    obtain ⟨index, bound, rfl⟩ := List.getElem_of_mem member
    have columnBound : index < table.columns.length := fieldsOfColumns.length_eq ▸ bound
    exact ⟨_, List.getElem_mem columnBound, fieldsOfColumns.get bound columnBound⟩
  constructor
  · intro distinct field member
    obtain ⟨column, columnMember, isOf⟩ := columnOf field member
    rw [isOf.isPrimaryKey, isOf.columnName, key,
      accepted.isPrimaryKey_eq_contains distinct column columnMember]
    exact Key.contains_iff
  · intro field member isKey
    obtain ⟨column, columnMember, isOf⟩ := columnOf field member
    rw [isOf.isPrimaryKey] at isKey
    have required : column.isNullable = false := by
      simp [Column.isNullable, isKey]
    exact ⟨isOf.isNullable.trans required, column, columnMember, isOf.columnName.symm,
      TypeMap.ofText?_typeText required isOf.type⟩

/-- A key declared with a column and beside it, where a name is in another case. -/
theorem key_marks_agree_composite :
    let source := "CREATE TABLE T (A INT PRIMARY KEY, B INT NULL, C INT, PRIMARY KEY (b))"
    let first : Column :=
      { name := "A", dataType := "INT", isMarkedKey := true, sql := "A INT PRIMARY KEY" }
    let second : Column :=
      { name := "B", dataType := "INT", constraint := .null, isMarkedKey := true
        sql := "B INT NULL" }
    let last : Column := { name := "C", dataType := "INT", sql := "C INT" }
    let table : Table :=
      { schema := "dbo", name := "T", sourcePath := "t.sql", sql := source
        columns := [first, second, last], primaryKey := .ofList ["A", "b"] }
    Accepts source "t.sql" {} table ∧ table.HasDistinctNames ∧
      (∀ column ∈ table.columns,
        column.isPrimaryKey = table.primaryKey.contains column.name) ∧
      ∃ entity, Entity.ofTable .builtin table = .ok entity ∧
        ∀ field ∈ entity.fields,
          (field.isPrimaryKey = true ↔
            ∃ name ∈ entity.primaryKey, namesMatch name field.columnName = true) := by
  intro source first second last table
  have accepted : Accepts source "t.sql" {} table := by decide +kernel
  have distinct : table.HasDistinctNames := by decide +kernel
  have isBuilt : (Entity.ofTable .builtin table).toOption.isSome = true := by decide +kernel
  obtain ⟨entity, built⟩ := Option.isSome_iff_exists.mp isBuilt
  have built := Grammar.toOption_eq_some.mp built
  obtain ⟨_, _, columns, entities⟩ := key_marks_agree accepted
  exact ⟨accepted, distinct, columns distinct, entity, built, (entities _ _ built).1 distinct⟩

end SqlSchema
