import SqlSchema.Grammar.Script
import SqlSchema.Table.Extraction
import SqlSchema.Table.Resolution
import SqlSchema.Table.Validation

/-!
From scripts to tables. Every `CREATE TABLE` statement of a script is extracted, resolved and
validated on its own; one that yields no table does not affect the others.
-/

namespace SqlSchema

/-- How scripts are read. -/
structure ReadingOptions where
  /-- Whether every table and column is traced. -/
  isTracing : Bool := false
  /-- The schema of tables that are declared without one. -/
  defaultSchema : String := "dbo"
  deriving DecidableEq, Repr

/-- What became of one statement. -/
structure TableOutcome where
  result : Except StructuralDefect Table
  diagnostics : List Diagnostic
  /-- The lines of the log, in order. -/
  log : List LogEntry

/-- Extracts, resolves and validates one statement of the file `path`. -/
def CreateTable.process (statement : CreateTable) (path : String) (isTracing : Bool) :
    TableOutcome :=
  let (table, diagnostics) := Extraction.table statement { path, isTracing }
  let (table, changes) := { table with sourcePath := path }.resolution
  { result :=
      match table.defect? with
      | some defect => .error defect
      | none => .ok table
    diagnostics := diagnostics.entries
    log := diagnostics.entries.map Diagnostic.logEntry ++ changes.map table.typeChangeEntry }

/-- The statement, if it is a `CREATE TABLE`. -/
def Statement.createTable? : Statement → Option CreateTable
  | .createTable statement => some statement
  | .other _ => none

/-- The tables of a script that belongs to the file `path`. -/
def readTables (source path : String) (options : ReadingOptions) :
    Except SyntaxError (List TableOutcome) :=
  (Grammar.readScript source options.defaultSchema).map fun statements =>
    (statements.filterMap Statement.createTable?).map (·.process path options.isTracing)

end SqlSchema
