import SqlSchema.File.Script
import SqlSchema.Table.Outcome

/-!
Loading: the tables of all scripts that a list of paths names. A script or a table that fails is
reported and does not affect the others.
-/

namespace SqlSchema

/-- Why a script yields no tables. -/
inductive SourceError where
  | unreadable (path : String) (cause : FileError)
  | refused (path : String) (error : SyntaxError)
  | missing (path : String)
  deriving DecidableEq, Repr

namespace SourceError

def message : SourceError → String
  | unreadable path cause => "failed to read " ++ path ++ ": " ++ cause.message
  | refused path error => error.textIn path
  | missing path => "path does not exist: " ++ path

def path : SourceError → String
  | unreadable path _ => path
  | refused path _ => path
  | missing path => path

end SourceError

/-- What could not be loaded. -/
inductive LoadFailure where
  | table (path : String) (defect : StructuralDefect)
  | source (error : SourceError)
  deriving DecidableEq, Repr

namespace LoadFailure

def message : LoadFailure → String
  | table path defect => path ++ ": " ++ defect.message
  | source error => error.message

def path : LoadFailure → String
  | table path _ => path
  | source error => error.path

end LoadFailure

/-- Everything that loading yields. -/
structure LoadReport where
  tables : List Table := []
  failures : List LoadFailure := []
  diagnostics : List Diagnostic := []
  log : List LogEntry := []

namespace LoadReport

def isSuccess (report : LoadReport) : Bool :=
  report.failures.isEmpty

def warnings (report : LoadReport) : List Diagnostic :=
  report.diagnostics.filter Diagnostic.isWarning

/-- One report after the other. -/
def append (left right : LoadReport) : LoadReport where
  tables := left.tables ++ right.tables
  failures := left.failures ++ right.failures
  diagnostics := left.diagnostics ++ right.diagnostics
  log := left.log ++ right.log

/-- Reports one after the other. -/
def concat (reports : List LoadReport) : LoadReport :=
  reports.foldr append {}

/-- The report of one failure. -/
def ofFailure (failure : LoadFailure) (logText : String) : LoadReport where
  failures := [failure]
  log := [⟨.error, logText⟩]

/-- The report of a script that cannot be used. -/
def ofSourceError (error : SourceError) : LoadReport :=
  ofFailure (.source error) error.message

end LoadReport

namespace Loading

/-- The lines of the log for a table that has been loaded. -/
def tableLog (table : Table) : List LogEntry :=
  ⟨.debug, table.description⟩ ::
    table.columns.map fun column =>
      ⟨.debug, Text.padRight 60 column.description ++ " " ++ column.sql⟩

/-- The report of one statement. -/
def outcomeReport (path : String) (outcome : TableOutcome) : LoadReport :=
  let found : LoadReport :=
    match outcome.result with
    | .ok table => { tables := [table], log := tableLog table }
    | .error defect =>
      let failure := LoadFailure.table path defect
      .ofFailure failure failure.message
  { found with diagnostics := outcome.diagnostics }

/-- The lines of the log before a script is read, if tracing is on. -/
def traceLog (options : ReadingOptions) (path : String) : List LogEntry :=
  let line := "**************************"
  if options.isTracing then
    [⟨.debug, line⟩, ⟨.debug, "Parsing " ++ path⟩, ⟨.debug, line⟩]
  else []

/-- The report of one script. All its statements are processed before the first is reported. -/
def script (options : ReadingOptions) (files : FileTree) (path : String) : LoadReport :=
  let start : LoadReport := { log := traceLog options path }
  match files.readText path with
  | .error cause => start.append (.ofSourceError (.unreadable path cause))
  | .ok source =>
    match readTables source path options with
    | .error error => start.append (.ofSourceError (.refused path error))
    | .ok outcomes =>
      let processed : LoadReport := { log := outcomes.flatMap TableOutcome.log }
      start.append (processed.append (.concat (outcomes.map (outcomeReport path))))

/-- The report of one path: a script, whatever its extension, or a directory with scripts. -/
def path (options : ReadingOptions) (files : FileTree) (path : String) : LoadReport :=
  if files.isDirectory path then
    match files.search path with
    | .ok scripts => .concat (scripts.map (script options files))
    | .error error => .ofSourceError (.unreadable error.path error.cause)
  else if files.isFile path then script options files path
  else .ofFailure (.source (.missing path)) ("Missing path " ++ path)

/-- The line of the log at the end. -/
def summaryLog (report : LoadReport) : LogEntry :=
  ⟨.info, "Loaded " ++ toString report.tables.length ++ " table(s), "
    ++ toString report.failures.length ++ " failure(s)"⟩

/-- The report of a list of paths. -/
def paths (options : ReadingOptions) (files : FileTree) (paths : List String) : LoadReport :=
  let report := LoadReport.concat (paths.map (path options files))
  { report with log := report.log ++ [summaryLog report] }

example :
    (paths {} .empty ["none.sql"]).failures = [.source (.missing "none.sql")] := by
  decide +kernel

end Loading

end SqlSchema
