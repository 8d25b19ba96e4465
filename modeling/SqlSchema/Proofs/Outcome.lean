import SqlSchema.Proofs.Resolution
import SqlSchema.Proofs.Shape
import SqlSchema.Table.Outcome

/-!
Accepted tables: the tables that reading a script yields. Each of them comes from a statement with
the shape of a tree, has been resolved, and has names and types for all its columns.
-/

namespace SqlSchema

/-- A table has no defect exactly if all its columns have names and types. -/
theorem Table.defect?_eq_none_iff {table : Table} :
    table.defect? = none ↔ ∀ column ∈ table.columns,
      Text.isBlankText column.name = false ∧ Text.isBlankText column.dataType = false := by
  have complete : (table.missingNames.isEmpty && table.missingTypes.isEmpty) = true ↔
      ∀ column ∈ table.columns,
        Text.isBlankText column.name = false ∧ Text.isBlankText column.dataType = false := by
    simp [Table.missingNames, Table.missingTypes, forall_and]
  rw [← complete, Table.defect?]
  split
  · rename_i isComplete
    exact iff_of_true rfl isComplete
  · rename_i isIncomplete
    exact iff_of_false nofun isIncomplete

theorem Grammar.hasElements_of_createTable? {source defaultSchema : String}
    {found : List Statement} (read : readScript source defaultSchema = .ok found) :
    ∀ statement ∈ found.filterMap Statement.createTable?, statement.HasElements := by
  intro statement member
  obtain ⟨parsed, parsedMember, isTable⟩ := List.mem_filterMap.mp member
  apply hasElements_of_readScript read
  cases parsed with
  | createTable other =>
    cases isTable
    exact parsedMember
  | other sql => cases isTable

/-- A table that a statement yields is extracted from it and resolved, and has no defect. -/
theorem CreateTable.eq_resolve_of_process {statement : CreateTable} {path : String}
    {isTracing : Bool} {table : Table}
    (accepted : (statement.process path isTracing).result = .ok table) :
    table = { (Extraction.table statement { path, isTracing }).1 with sourcePath := path }.resolve ∧
      table.defect? = none := by
  unfold process at accepted
  dsimp only at accepted
  split at accepted
  · cases accepted
  · rename_i sound
    cases accepted
    exact ⟨rfl, sound⟩

/-- Whether `table` is one of the tables of a script that belongs to the file `path`. -/
def Accepts (source path : String) (options : ReadingOptions) (table : Table) : Prop :=
  ∃ outcomes, readTables source path options = .ok outcomes ∧
    ∃ outcome ∈ outcomes, outcome.result = .ok table

instance (source path : String) (options : ReadingOptions) (table : Table) :
    Decidable (Accepts source path options table) :=
  decidable_of_iff
    (∃ outcome ∈ (readTables source path options).toOption.getD [],
      outcome.result.toOption = some table) <| by
    unfold Accepts
    cases readTables source path options with
    | error error => simp [Except.toOption]
    | ok outcomes =>
      change (∃ outcome ∈ outcomes, _) ↔ _
      simp [Grammar.toOption_eq_some]

namespace Accepts

variable {source path : String} {options : ReadingOptions} {table : Table}

/-- An accepted table is extracted from a statement and resolved, and has no defect. -/
theorem exists_statement (accepted : Accepts source path options table) :
    ∃ statement : CreateTable, statement.HasElements ∧ ∃ extracted : Table,
      extracted = (Extraction.table statement { path, isTracing := options.isTracing }).1 ∧
      table = { extracted with sourcePath := path }.resolve ∧ table.defect? = none := by
  obtain ⟨outcomes, read, outcome, member, result⟩ := accepted
  obtain ⟨statements, script, rfl⟩ := Grammar.map_eq_ok.mp read
  obtain ⟨statement, found, rfl⟩ := List.mem_map.mp member
  exact ⟨statement, Grammar.hasElements_of_createTable? script _ found, _, rfl,
    CreateTable.eq_resolve_of_process result⟩

theorem column_not_blank (accepted : Accepts source path options table) :
    ∀ column ∈ table.columns,
      Text.isBlankText column.name = false ∧ Text.isBlankText column.dataType = false := by
  obtain ⟨_, _, _, _, _, sound⟩ := accepted.exists_statement
  exact Table.defect?_eq_none_iff.mp sound

end Accepts

end SqlSchema
