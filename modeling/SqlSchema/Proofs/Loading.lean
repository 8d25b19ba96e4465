import SqlSchema.Loading
import SqlSchema.Proofs.Layout
import SqlSchema.Proofs.Reading

/-!
Loading as a walk. A list of paths leads to stops: scripts to be read, and places where there is
nothing to read. The report has what each stop yields, in the order of the stops, and a stop yields
what it does whatever the others do.
-/

namespace SqlSchema

/-! ## Stops -/

/-- The failure that a rejected table is reported as. -/
def TableOutcome.failure? (path : String) (outcome : TableOutcome) : Option LoadFailure :=
  match outcome.result with
  | .ok _ => none
  | .error defect => some (.table path defect)

/-- Whether it is a table that failed, not a script as a whole. -/
def LoadFailure.isTable : LoadFailure → Bool
  | table _ _ => true
  | source _ => false

namespace Loading

/-- Where a path leads to. -/
inductive Stop where
  | script (path : String)
  | missing (path : String)
  | unsearchable (error : SearchError)
  deriving DecidableEq, Repr

/-- The stops of one path: a file, the scripts of a directory in the order of the search, or a
single stop without a script. -/
def stops (files : FileTree) (path : String) : List Stop :=
  if files.isDirectory path then
    match files.search path with
    | .ok scripts => scripts.map .script
    | .error error => [.unsearchable error]
  else if files.isFile path then [.script path]
  else [.missing path]

namespace Stop

variable (options : ReadingOptions) (files : FileTree)

/-- The path that the failures at a stop are told of. -/
def path : Stop → String
  | script path => path
  | missing path => path
  | unsearchable error => error.path

/-- What becomes of the tables at a stop, or why there is nothing to read. -/
def outcomes : Stop → Except SourceError (List TableOutcome)
  | script path =>
    match files.readText path with
    | .error cause => .error (.unreadable path cause)
    | .ok source => (readTables source path options).mapError (.refused path)
  | missing path => .error (.missing path)
  | unsearchable error => .error (.unreadable error.path error.cause)

/-- What a stop adds to the report: one failure if nothing can be read, otherwise the accepted
tables, a failure for each rejected one and the diagnostics of all. -/
def report (stop : Stop) : LoadReport :=
  match stop.outcomes options files with
  | .error error => { failures := [.source error] }
  | .ok outcomes =>
    { tables := outcomes.filterMap (·.result.toOption)
      failures := outcomes.filterMap (TableOutcome.failure? stop.path)
      diagnostics := outcomes.flatMap TableOutcome.diagnostics }

/-- The `CREATE TABLE` statements at a stop; none if its script cannot be read. -/
def createTables : Stop → List CreateTable
  | script path =>
    match files.readText path with
    | .error _ => []
    | .ok source =>
      match Grammar.readScript source options.defaultSchema with
      | .error _ => []
      | .ok statements => statements.filterMap Statement.createTable?
  | missing _ | unsearchable _ => []

end Stop

end Loading

/-! ## Reports -/

namespace LoadReport

/-- A report without its log. -/
def unlogged (report : LoadReport) : LoadReport :=
  { report with log := [] }

theorem concat_cons (first : LoadReport) (others : List LoadReport) :
    concat (first :: others) = first.append (concat others) :=
  rfl

theorem unlogged_append (left right : LoadReport) :
    (left.append right).unlogged = left.unlogged.append right.unlogged :=
  rfl

theorem append_assoc (first second third : LoadReport) :
    (first.append second).append third = first.append (second.append third) := by
  simp [append]

theorem concat_append (left right : List LoadReport) :
    concat (left ++ right) = (concat left).append (concat right) := by
  induction left with
  | nil => simp [concat, append]
  | cons first others induction =>
    rw [List.cons_append, concat_cons, concat_cons, induction, append_assoc]

theorem concat_flatMap {α : Type} (reports : α → List LoadReport) (items : List α) :
    concat (items.flatMap reports) = concat (items.map fun item => concat (reports item)) := by
  induction items with
  | nil => rfl
  | cons first others induction =>
    rw [List.flatMap_cons, concat_append, induction, List.map_cons, concat_cons]

theorem unlogged_concat (reports : List LoadReport) :
    (concat reports).unlogged = concat (reports.map unlogged) := by
  induction reports with
  | nil => rfl
  | cons first others induction =>
    rw [concat_cons, unlogged_append, induction, List.map_cons, concat_cons]

/-- What reports hold one after the other, if it is put together part by part. -/
theorem flatMap_of_concat {α : Type} (field : LoadReport → List α) (empty : field {} = [])
    (both : ∀ left right : LoadReport, field (left.append right) = field left ++ field right)
    (reports : List LoadReport) : field (concat reports) = reports.flatMap field := by
  induction reports with
  | nil => exact empty
  | cons first others induction =>
    rw [concat_cons, both, induction, List.flatMap_cons]

end LoadReport

namespace Loading

variable (options : ReadingOptions) (files : FileTree)

/-! ## The walk -/

/-- The statements of a script are reported one after the other. -/
theorem unlogged_concat_outcomeReport (path : String) (outcomes : List TableOutcome) :
    (LoadReport.concat (outcomes.map (outcomeReport path))).unlogged =
      { tables := outcomes.filterMap (·.result.toOption)
        failures := outcomes.filterMap (TableOutcome.failure? path)
        diagnostics := outcomes.flatMap TableOutcome.diagnostics } := by
  induction outcomes with
  | nil => rfl
  | cons outcome others induction =>
    rw [List.map_cons, LoadReport.concat_cons, LoadReport.unlogged_append, induction]
    cases result : outcome.result with
    | error defect =>
      simp [outcomeReport, result, LoadReport.unlogged, LoadReport.append, LoadReport.ofFailure,
        TableOutcome.failure?, Except.toOption]
    | ok table =>
      simp [outcomeReport, result, LoadReport.unlogged, LoadReport.append, TableOutcome.failure?,
        Except.toOption]

theorem unlogged_script (path : String) :
    (script options files path).unlogged = (Stop.script path).report options files := by
  rw [script, Stop.report, Stop.outcomes]
  cases files.readText path with
  | error cause => rfl
  | ok source =>
    dsimp only
    cases readTables source path options with
    | error error => rfl
    | ok outcomes => exact unlogged_concat_outcomeReport path outcomes

theorem unlogged_path (path : String) :
    (Loading.path options files path).unlogged =
      LoadReport.concat ((stops files path).map (Stop.report options files)) := by
  rw [Loading.path, stops]
  split
  · cases files.search path with
    | error error => rfl
    | ok scripts =>
      dsimp only
      rw [LoadReport.unlogged_concat, List.map_map, List.map_map]
      exact congrArg _ (List.map_congr_left fun script _ => unlogged_script options files script)
  · split
    · rw [unlogged_script]
      simp [LoadReport.concat, LoadReport.append]
    · rfl

/-- Loading reports what the stops add, one after the other. -/
theorem unlogged_paths (paths : List String) :
    (Loading.paths options files paths).unlogged =
      LoadReport.concat ((paths.flatMap (stops files)).map (Stop.report options files)) := by
  change (LoadReport.concat (paths.map (Loading.path options files))).unlogged = _
  rw [LoadReport.unlogged_concat, List.map_flatMap, LoadReport.concat_flatMap, List.map_map]
  exact congrArg _ (List.map_congr_left fun path _ => unlogged_path options files path)

theorem tables_paths (paths : List String) :
    (Loading.paths options files paths).tables =
      (paths.flatMap (stops files)).flatMap fun stop => (stop.report options files).tables := by
  change (Loading.paths options files paths).unlogged.tables = _
  rw [unlogged_paths, LoadReport.flatMap_of_concat LoadReport.tables rfl fun _ _ => rfl,
    List.flatMap_map]

theorem failures_paths (paths : List String) :
    (Loading.paths options files paths).failures =
      (paths.flatMap (stops files)).flatMap fun stop => (stop.report options files).failures := by
  change (Loading.paths options files paths).unlogged.failures = _
  rw [unlogged_paths, LoadReport.flatMap_of_concat LoadReport.failures rfl fun _ _ => rfl,
    List.flatMap_map]

theorem diagnostics_paths (paths : List String) :
    (Loading.paths options files paths).diagnostics =
      (paths.flatMap (stops files)).flatMap fun stop => (stop.report options files).diagnostics := by
  change (Loading.paths options files paths).unlogged.diagnostics = _
  rw [unlogged_paths, LoadReport.flatMap_of_concat LoadReport.diagnostics rfl fun _ _ => rfl,
    List.flatMap_map]

/-! ## Counting -/

/-- Every outcome is an accepted or a rejected table. -/
theorem length_outcomes (path : String) (outcomes : List TableOutcome) :
    (outcomes.filterMap (·.result.toOption)).length +
      (outcomes.filterMap (TableOutcome.failure? path)).countP LoadFailure.isTable =
        outcomes.length := by
  induction outcomes with
  | nil => rfl
  | cons outcome others induction =>
    cases result : outcome.result with
    | error defect =>
      simp only [List.filterMap_cons, result, Except.toOption, TableOutcome.failure?,
        List.countP_cons, LoadFailure.isTable, List.length_cons] at induction ⊢
      simp only [if_true]
      omega
    | ok table =>
      simp only [List.filterMap_cons, result, Except.toOption, TableOutcome.failure?,
        List.length_cons] at induction ⊢
      omega

theorem length_report (stop : Stop) :
    (stop.report options files).tables.length +
      (stop.report options files).failures.countP LoadFailure.isTable =
        (stop.createTables options files).length := by
  cases stop with
  | missing path => rfl
  | unsearchable error => rfl
  | script path =>
    rw [Stop.report, Stop.outcomes, Stop.createTables]
    cases files.readText path with
    | error cause => rfl
    | ok source =>
      dsimp only
      rw [readTables]
      cases Grammar.readScript source options.defaultSchema with
      | error error => rfl
      | ok statements => exact (length_outcomes path _).trans (List.length_map _)

theorem length_reports (stops : List Stop) :
    (stops.flatMap fun stop => (stop.report options files).tables).length +
      (stops.flatMap fun stop => (stop.report options files).failures).countP LoadFailure.isTable =
        (stops.flatMap (Stop.createTables options files)).length := by
  induction stops with
  | nil => rfl
  | cons stop others induction =>
    have here := length_report options files stop
    simp only [List.flatMap_cons, List.length_append, List.countP_append]
    omega

/-! ## Success -/

/-- A stop adds no failure exactly if it is a script with accepted tables only. -/
theorem failures_report_eq_nil_iff (stop : Stop) :
    (stop.report options files).failures = [] ↔
      ∃ path source outcomes, stop = .script path ∧ files.readText path = .ok source ∧
        readTables source path options = .ok outcomes ∧
        ∀ outcome ∈ outcomes, ∃ table, outcome.result = .ok table := by
  have accepted (path : String) (outcome : TableOutcome) :
      outcome.failure? path = none ↔ ∃ table, outcome.result = .ok table := by
    unfold TableOutcome.failure?
    cases outcome.result <;> simp
  cases stop with
  | missing path => simp [Stop.report, Stop.outcomes]
  | unsearchable error => simp [Stop.report, Stop.outcomes]
  | script path =>
    rw [Stop.report, Stop.outcomes]
    cases read : files.readText path with
    | error cause => simp [read]
    | ok source =>
      dsimp only
      cases parsed : readTables source path options with
      | error error =>
        change [LoadFailure.source _] = [] ↔ _
        simp [read, parsed]
      | ok outcomes =>
        change outcomes.filterMap (TableOutcome.failure? path) = [] ↔ _
        simp [read, parsed, accepted]

/-! ## Rewriting a file -/

section

variable {files : FileTree} {location : List String} {before after : ByteArray}
  (found : files.at? location = some (.file before))
include found

theorem stops_set_file (path : String) :
    stops (files.set location (.file after)) path = stops files path := by
  have layout : (files.set location (.file after)).layout = files.layout :=
    FileTree.layout_set_file found
  unfold stops
  rw [← FileTree.isDirectory_layout, ← FileTree.isFile_layout, ← FileTree.search_layout, layout,
    FileTree.isDirectory_layout, FileTree.isFile_layout, FileTree.search_layout]

theorem report_set_file {stop : Stop}
    (elsewhere : ∀ path, stop = .script path → files.locate path ≠ .ok location) :
    stop.report options (files.set location (.file after)) = stop.report options files := by
  unfold Stop.report
  cases stop with
  | missing path => rfl
  | unsearchable error => rfl
  | script path =>
    rw [Stop.outcomes, FileTree.readText, FileTree.readBytes_set_file found path
      (elsewhere path rfl), ← FileTree.readText, Stop.outcomes]

end

/-- Loading is a walk along the stops of the paths. The report has the accepted tables, the
diagnostics and the failures of every stop, in order and nothing else; the tables and the rejected
tables are the `CREATE TABLE` statements of all scripts that can be read. More paths add to the
report; another text in one file changes what that file adds, and neither the stops nor what any
other file adds. All is well exactly if every stop is a script with accepted tables only. -/
theorem report_of_stops (paths : List String) :
    let walk := paths.flatMap (stops files)
    let report := Loading.paths options files paths
    (report.tables = walk.flatMap fun stop => (stop.report options files).tables) ∧
    (report.diagnostics = walk.flatMap fun stop => (stop.report options files).diagnostics) ∧
    (report.failures = walk.flatMap fun stop => (stop.report options files).failures) ∧
    report.tables.length + report.failures.countP LoadFailure.isTable =
      (walk.flatMap (Stop.createTables options files)).length ∧
    (∀ more, (Loading.paths options files (paths ++ more)).unlogged =
      report.unlogged.append (Loading.paths options files more).unlogged) ∧
    (∀ location before after, files.at? location = some (.file before) →
      paths.flatMap (stops (files.set location (.file after))) = walk ∧
      ∀ stop : Stop, (∀ path, stop = .script path → files.locate path ≠ .ok location) →
        stop.report options (files.set location (.file after)) = stop.report options files) ∧
    (report.isSuccess = true ↔
      ∀ stop ∈ walk, ∃ path source outcomes, stop = .script path ∧
        files.readText path = .ok source ∧ readTables source path options = .ok outcomes ∧
        ∀ outcome ∈ outcomes, ∃ table, outcome.result = .ok table) := by
  refine ⟨tables_paths options files paths, diagnostics_paths options files paths,
    failures_paths options files paths, ?_, ?_, ?_, ?_⟩
  · rw [tables_paths, failures_paths, length_reports]
  · intro more
    simp only [unlogged_paths, List.flatMap_append, List.map_append, LoadReport.concat_append]
  · intro location before after found
    refine ⟨?_, fun stop elsewhere => report_set_file options found elsewhere⟩
    exact congrArg paths.flatMap (funext (stops_set_file found))
  · rw [LoadReport.isSuccess, List.isEmpty_iff, failures_paths, List.flatMap_eq_nil_iff]
    exact forall₂_congr fun stop _ => failures_report_eq_nil_iff options files stop

/-- A script before a directory that may not be listed and a path that leads nowhere. Without its
table the script is still a stop, and the others still fail. -/
theorem report_of_stops_locked :
    let files := FileTree.directory
      [("a.sql", .file "CREATE TABLE T (A INT)".toUTF8), ("b", .locked true)]
    let paths := ["a.sql", "b", "c"]
    (files.at? ["a.sql"]).isSome = true ∧
    (Loading.paths {} files paths).tables.length = 1 ∧
    (Loading.paths {} files paths).failures =
      [.source (.unreadable "b" .denied), .source (.missing "c")] ∧
    (Loading.paths {} files paths).isSuccess = false ∧
    paths.flatMap (stops (files.set ["a.sql"] (.file .empty))) =
      [.script "a.sql", .unsearchable ⟨"b", .denied⟩, .missing "c"] := by
  intro files paths
  have walk : paths.flatMap (stops files) =
      [.script "a.sql", .unsearchable ⟨"b", .denied⟩, .missing "c"] := by decide +kernel
  obtain ⟨-, -, failures, count, -, rewritten, isSuccess⟩ := report_of_stops {} files paths
  have failed : (Loading.paths {} files paths).failures =
      [.source (.unreadable "b" .denied), .source (.missing "c")] := by
    rw [failures, walk]
    decide +kernel
  refine ⟨by decide +kernel, ?_, failed, ?_, ?_⟩
  · rw [failed, walk] at count
    exact count.trans (by decide +kernel)
  · rw [LoadReport.isSuccess, failed]
    rfl
  · exact (rewritten ["a.sql"] _ .empty rfl).1.trans walk

end Loading

end SqlSchema
