import SqlSchema.Path
import SqlSchema.Table.Column
import SqlSchema.Table.Key

/-!
Tables: columns in declaration order, the primary key, and the files that the table came from and
went to.
-/

namespace SqlSchema

/-- A table. -/
structure Table where
  schema : String
  name : String
  columns : List Column := []
  primaryKey : Key := .empty
  /-- The file with the statement. -/
  sourcePath : String := ""
  /-- The file that was generated from the table, if one was. -/
  outputPath : Option String := none
  /-- The text of the statement. -/
  sql : String := ""
  deriving DecidableEq, Repr

namespace Table

/-- Schema and name, each in brackets. -/
def qualifiedName (table : Table) : String :=
  "[" ++ table.schema ++ "].[" ++ table.name ++ "]"

/-- The first column whose name matches. -/
def column? (table : Table) (name : String) : Option Column :=
  table.columns.find? fun column => namesMatch column.name name

def hasCompositeKey (table : Table) : Bool :=
  table.primaryKey.size > 1

def hasIdentity (table : Table) : Bool :=
  table.columns.any Column.isIdentity

def hasNotNull (table : Table) : Bool :=
  table.columns.any fun column => column.constraint == .notNull

def hasKeyColumn (table : Table) : Bool :=
  table.columns.any Column.isPrimaryKey

/-- Whether a column has the data type, in any case. -/
def hasDataType (table : Table) (dataType : String) : Bool :=
  table.columns.any fun column => Text.equalIgnoringCase column.dataType dataType

/-- Whether the named column identifies a row. With a composite key that is the identity column, or
the first column of the key if there is no identity; otherwise it is a column of the key. -/
def isIdColumn (table : Table) (name : String) : Bool :=
  match table.column? name with
  | none => false
  | some column =>
    if table.hasCompositeKey then
      if table.hasIdentity then column.isIdentity
      else table.primaryKey.first?.any fun first => namesMatch column.name first
    else column.isPrimaryKey

/-- One line that describes the table: its name, the number of columns and the key. -/
def description (table : Table) : String :=
  table.qualifiedName ++ " Columns: " ++ toString table.columns.length ++ " "
    ++ ",".intercalate table.primaryKey.names

example : ({ schema := "dbo", name := "T", primaryKey := .ofList ["B", "a"] } : Table).description =
    "[dbo].[T] Columns: 0 a,B" := by
  decide +kernel

end Table

end SqlSchema
