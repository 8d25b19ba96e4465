import SqlSchema.Node
import SqlSchema.Text.Blank

/-!
Columns of a table. A column stores what its declaration says; whether it is part of the key or an
identity follows from that.
-/

namespace SqlSchema

/-- A column. -/
structure Column where
  name : String := ""
  /-- Name of the data type. -/
  dataType : String := ""
  /-- First argument of the data type: a length or a precision. -/
  argument1 : Option UInt32 := none
  /-- Second argument of the data type: a scale. -/
  argument2 : Option UInt32 := none
  /-- Whether the column is derived from an expression. -/
  isComputed : Bool := false
  /-- What a computed column takes its data type from: a column, or a type if no column has that
  name. -/
  referenceText : Option String := none
  /-- The constraint declared last. -/
  constraint : ConstraintKind := .none
  /-- Whether the column is marked as part of the key. -/
  isMarkedKey : Bool := false
  /-- Whether the column is declared as identity. -/
  isMarkedIdentity : Bool := false
  /-- The text of the declaration. -/
  sql : String := ""
  deriving DecidableEq, Repr

/-- `text` with spaces after it, at least `width` characters long. -/
def Text.padRight (width : Nat) (text : String) : String :=
  text ++ String.ofList (List.replicate (width - text.length) ' ')

namespace Column

def isPrimaryKey (column : Column) : Bool :=
  column.isMarkedKey || column.constraint == .primaryKey

def isIdentity (column : Column) : Bool :=
  column.isMarkedIdentity || column.constraint == .identity

/-- What the column takes its data type from, if that is not blank. -/
def reference? (column : Column) : Option String :=
  column.referenceText.filter fun reference => !Text.isBlankText reference

/-- Whether a value may be missing: neither the key nor `NOT NULL` forbids it. -/
def isNullable (column : Column) : Bool :=
  !column.isPrimaryKey && !column.isIdentity && column.constraint != .notNull

/-- One line that describes the column: type and name in fixed widths, then the flags it has. -/
def description (column : Column) : String :=
  let flag (holds : Bool) (text : String) : String := if holds then text else ""
  " ".intercalate
    [Text.padRight 20 column.dataType, Text.padRight 20 column.name,
      flag column.isPrimaryKey "PRIMARY", flag column.isIdentity "IDENTITY",
      flag column.isComputed "READONLY", flag (column.constraint == .null) "NULL",
      flag (column.constraint == .notNull) "NOT NULL"]

example : ({ name := "Id", dataType := "INT", isMarkedKey := true } : Column).description =
    "INT                  Id                   PRIMARY    " := by
  decide +kernel

end Column

end SqlSchema
