import SqlSchema.Diagnostic
import SqlSchema.Table.Basic

/-!
Resolution: what a column takes from other columns. First every name of the key marks the first
column that matches. Then every column with a reference takes the data type of the first column that
matches it, or the reference itself as its type where no column matches.
-/

namespace SqlSchema

/-! ## Key marks -/

/-- Marks the first column that matches `name` as part of the key. -/
def markKey (name : String) : List Column → List Column
  | [] => []
  | column :: rest =>
    if namesMatch column.name name then { column with isMarkedKey := true } :: rest
    else column :: markKey name rest

/-- Marks the columns that the names of a key stand for. -/
def markKeys (names : List String) (columns : List Column) : List Column :=
  names.foldl (fun columns name => markKey name columns) columns

/-! ## Types -/

/-- A column that has taken a type, and from what. -/
structure TypeChange where
  column : String
  dataType : String
  reference : String
  deriving DecidableEq, Repr

/-- The type that a reference stands for. -/
def referencedType (columns : List Column) (reference : String) : String :=
  match columns.find? fun column => namesMatch column.name reference with
  | some column => column.dataType
  | none => reference

/-- One pass over the columns from left to right. `done` holds the columns already passed, so a
column sees the types that those before it have taken in this pass. -/
def settleFrom (done : List Column) : List Column → List Column × List TypeChange
  | [] => (done, [])
  | column :: rest =>
    match column.reference? with
    | none => settleFrom (done ++ [column]) rest
    | some reference =>
      let dataType := referencedType (done ++ column :: rest) reference
      if column.dataType = dataType then settleFrom (done ++ [column]) rest
      else
        let (columns, changes) := settleFrom (done ++ [{ column with dataType }]) rest
        (columns, ⟨column.name, dataType, reference⟩ :: changes)

/-- Passes over the columns, at most `passes` of them, until one changes nothing. -/
def settle : (passes : Nat) → List Column → List Column × List TypeChange
  | 0, columns => (columns, [])
  | passes + 1, columns =>
    match settleFrom [] columns with
    | (columns, []) => (columns, [])
    | (columns, changes) =>
      let (columns, later) := settle passes columns
      (columns, changes ++ later)

namespace Table

/-- The table with key marks and types, and the types taken on the way. There are as many passes as
columns at most. -/
def resolution (table : Table) : Table × List TypeChange :=
  let (columns, changes) :=
    settle table.columns.length (markKeys table.primaryKey.names table.columns)
  ({ table with columns }, changes)

/-- The table with key marks and types. -/
def resolve (table : Table) : Table :=
  table.resolution.1

/-- The log line for a type that a column of the table takes. -/
def typeChangeEntry (table : Table) (change : TypeChange) : LogEntry :=
  ⟨.debug, table.qualifiedName ++ " " ++ change.column ++ " takes type " ++ change.dataType
    ++ " from " ++ change.reference⟩

end Table

end SqlSchema
