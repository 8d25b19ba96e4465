import SqlSchema.Table.Basic

/-!
Validation: a table is complete when every column has a name and a data type.
-/

namespace SqlSchema

/-- What a table lacks. -/
structure StructuralDefect where
  schema : String
  name : String
  /-- The description of the table. -/
  summary : String
  /-- The declarations of the columns without a name. -/
  missingNames : List String
  /-- The names of the columns without a data type. -/
  missingTypes : List String
  deriving DecidableEq, Repr

namespace StructuralDefect

/-- What the defect says about columns that lack `what`, if there are any. -/
def part (defect : StructuralDefect) (what : String) (columns : List String) : List String :=
  if columns.isEmpty then []
  else ["Missing " ++ what ++ " for " ++ ", ".intercalate columns ++ " in " ++ defect.summary]

def message (defect : StructuralDefect) : String :=
  "; ".intercalate
    (defect.part "names" defect.missingNames ++ defect.part "types" defect.missingTypes)

end StructuralDefect

namespace Table

/-- The declarations of the columns without a name. -/
def missingNames (table : Table) : List String :=
  (table.columns.filter fun column => Text.isBlankText column.name).map Column.sql

/-- The names of the columns without a data type. -/
def missingTypes (table : Table) : List String :=
  (table.columns.filter fun column => Text.isBlankText column.dataType).map Column.name

/-- The defect of a table, if it has one. -/
def defect? (table : Table) : Option StructuralDefect :=
  if table.missingNames.isEmpty && table.missingTypes.isEmpty then none
  else
    some
      { schema := table.schema, name := table.name, summary := table.description
        missingNames := table.missingNames, missingTypes := table.missingTypes }

end Table

end SqlSchema
