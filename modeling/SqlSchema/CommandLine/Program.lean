import SqlSchema.CommandLine.Arguments
import SqlSchema.Loading
import SqlSchema.Output.Generation
import SqlSchema.Setting.Options
import SqlSchema.Setting.Types

/-!
The program: it loads tables and then generates files or reports what it has found. Its effect on
the files is a new file tree.
-/

namespace SqlSchema.CommandLine

/-! ## Results -/

/-- Why a run ends early. -/
inductive ProgramError where
  | options
  | settings (error : SettingsError)
  | types (error : EntityError)
  | generation (error : GenerationError)
  deriving DecidableEq, Repr

/-- A message with the cause after it once more, as the chain of errors has it. -/
def withCause (message : String) (cause : FileError) : String :=
  message ++ ": " ++ cause.message

def ProgramError.message : ProgramError → String
  | options => "Parser configuration could not be loaded from file or environment"
  | settings error =>
    match error with
    | .unreadable _ cause => withCause error.message cause
    | .invalid _ => error.message
  | types error => error.message
  | generation error =>
    match error with
    | .unwritable _ cause => withCause error.message cause
    | .noEntity _ => error.message

/-- What a run leaves behind. -/
structure ProgramResult where
  exitCode : UInt32
  output : String := ""
  errorOutput : String := ""
  /-- The lines of the log that are shown. -/
  log : List LogEntry := []
  files : FileTree

/-! ## Report -/

/-- Every line with a line end after it. -/
def unlines (lines : List String) : String :=
  String.join (lines.map (· ++ "\n"))

/-- The lines about one table. -/
def tableLines (table : Table) : List String :=
  table.description ::
    table.columns.map fun column =>
      "    " ++ Text.padRight 60 column.description ++ " " ++ column.sql

/-- The report of what has been loaded. -/
def reportLines (report : LoadReport) : List String :=
  report.tables.flatMap tableLines ++ report.warnings.map Diagnostic.message ++
    [toString report.tables.length ++ " table(s), " ++ toString report.warnings.length
      ++ " warning(s), " ++ toString report.failures.length ++ " failure(s)"]

/-! ## Runs -/

/-- What a generator makes of the loaded tables. -/
def generate (generator : Generator) (files : FileTree) (tables : List Table) :
    Action → Generation
  | .entity => generator.entities files tables
  | .context => generator.context files tables
  | .json => generator.documents files tables
  | .check => ⟨tables, [], files, none, []⟩

/-- The exit code that says whether everything could be loaded. -/
def successCode (report : LoadReport) : UInt32 :=
  if report.isSuccess then 0 else 1

/-- What the log says after generation. -/
def generatedLog (action : Action) (count : Nat) : List LogEntry :=
  match action with
  | .entity =>
    [⟨.info, "Generated " ++ toString count ++ " entit" ++ (if count = 1 then "y" else "ies")⟩]
  | .json => [⟨.info, "Wrote " ++ toString count ++ " JSON document(s)"⟩]
  | .context | .check => []

/-- The level that the log is shown up to. -/
def logLevel (invocation : Invocation) : LogLevel :=
  if invocation.isQuiet then .error
  else if invocation.isVerbose || invocation.isDiagnostic then .debug
  else .info

/-- What a run that ends early leaves behind. -/
def failed (error : ProgramError) (log : List LogEntry) (files : FileTree) : ProgramResult where
  exitCode := 1
  errorOutput := "Error: " ++ error.message ++ "\n"
  log
  files

/-- The options of a run: those of the command line win over the others. -/
def runOptions? (invocation : Invocation) (files : FileTree)
    (environment : List EnvironmentVariable) : Option ReadingOptions :=
  let path := invocation.config.getD ReadingOptions.defaultPath
  (ReadingOptions.load? files environment path).map fun options =>
    { isTracing := options.isTracing || invocation.isDiagnostic
      defaultSchema := invocation.defaultSchema.getD options.defaultSchema }

/-- Generates files for what has been loaded. -/
def runGeneration (invocation : Invocation) (pairs : List (String × String)) (report : LoadReport)
    (formatter : Formatter) (files : FileTree) : ProgramResult :=
  match TypeMap.builtin.insertAll pairs with
  | .error error => failed (.types error) report.log files
  | .ok types =>
    let generator : Generator :=
      { database := invocation.database, template := invocation.outputPath, types, formatter }
    let generation := generate generator files report.tables invocation.action
    let log := report.log ++ generation.log
    match generation.failure with
    | some error => failed (.generation error) log generation.files
    | none =>
      { exitCode := successCode report
        log := log ++ generatedLog invocation.action generation.written.length
        files := generation.files }

/-- A run with its whole log. -/
def runLogged (invocation : Invocation) (formatter : Formatter) (files : FileTree)
    (environment : List EnvironmentVariable) : ProgramResult :=
  match runOptions? invocation files environment with
  | none => failed .options [] files
  | some options =>
    match TypeMap.loadPairs? files invocation.settings with
    | .error error => failed (.settings error) [] files
    | .ok pairs =>
      let report := Loading.paths options files invocation.files
      if invocation.action = .check then
        { exitCode := successCode report
          output := unlines (reportLines report)
          errorOutput := unlines (report.failures.map LoadFailure.message)
          log := report.log
          files }
      else runGeneration invocation pairs report formatter files

/-- Runs the program. -/
def run (invocation : Invocation) (formatter : Formatter) (files : FileTree)
    (environment : List EnvironmentVariable) : ProgramResult :=
  let result := runLogged invocation formatter files environment
  let isShown (entry : LogEntry) : Bool := entry.level.rank ≤ (logLevel invocation).rank
  { result with log := result.log.filter isShown }

/-- The name and the version of the program. -/
def versionLine : String := "sqltable-codegen 0.1.0"

/-- How the program is called. -/
def helpLines : List String :=
  ["Usage: sqltable-codegen [OPTIONS] <ACTION> --files <FILES>...",
    "",
    "Actions:",
    "  entity   write one Rust file per table",
    "  context  write one module that declares every entity",
    "  json     write one JSON document per table",
    "  check    read and validate only",
    "",
    "Options:",
    "  --files <FILES>...            scripts, also separated by commas",
    "  --output-file-path <PATTERN>  where to write; all actions but check need it",
    "  --database <NAME>             name of the database in patterns and in the context",
    "  --default-schema <NAME>       schema of tables that are declared without one",
    "  --config <FILE>               parser options, config/config.toml if not given",
    "  --settings <FILE>             types for SQL types",
    "  --diagnostic                  trace every table and column",
    "  -v, --verbose                 show more of the log",
    "  -q, --quiet                   show errors only",
    "  -h, --help                    show this text",
    "  -V, --version                 show the version"]

/-- What the program does with its arguments. Arguments that are refused have the exit code 2. -/
def execute (arguments : List String) (formatter : Formatter) (files : FileTree)
    (environment : List EnvironmentVariable) : ProgramResult :=
  match readArguments arguments with
  | .error error => { exitCode := 2, errorOutput := unlines ["error: " ++ error.message], files }
  | .ok (.information .version) => { exitCode := 0, output := unlines [versionLine], files }
  | .ok (.information .help) => { exitCode := 0, output := unlines helpLines, files }
  | .ok (.run invocation) => run invocation formatter files environment

example : (execute ["check", "--files", "none"] .missing .empty []).errorOutput =
    "path does not exist: none\n" := by
  decide +kernel

end SqlSchema.CommandLine
