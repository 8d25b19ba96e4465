import SqlSchema.Output.Generation
import SqlSchema.Proofs.Writing

/-!
Runs of the generator. Files are written in the order of the tables, each table is noted with the
path of its file, and the first failure leaves the tables after it as they were.
-/

namespace SqlSchema

/-! ## Tables and their files -/

namespace Table

/-- The table with the path of its file. -/
def writtenTo (table : Table) (path : String) : Table :=
  { table with outputPath := some path }

/-- The table without the path of its file. -/
def withoutOutput (table : Table) : Table :=
  { table with outputPath := none }

theorem withoutOutput_writtenTo (table : Table) (path : String) :
    (table.writtenTo path).withoutOutput = table.withoutOutput :=
  rfl

end Table

namespace Generator

/-- The path and the text of the file for the entity of a table. -/
def entityFile (generator : Generator) (files : FileTree) (table : Table) :
    Except EntityError (String × String) :=
  (Entity.ofTable generator.types table).map fun entity =>
    (outputPath files (generator.values table entity.moduleName) generator.template
        entity.moduleName "rs",
      (entity.source generator.formatter).text)

/-- The path and the text of the file for the document of a table. The document has the path in
it. -/
def documentFile (generator : Generator) (files : FileTree) (table : Table) :
    Except EntityError (String × String) :=
  let values := generator.values table (Name.snakeCase table.name)
  let path :=
    Path.withExtension (outputPath files values generator.template table.name "json") "json"
  .ok (path, (table.writtenTo path).documentText)

end Generator

/-! ## Writing in order -/

section

variable (file : FileTree → Table → Except EntityError (String × String))

/-- The files of tables are written one after the other, each where the files before it have left
the tree. Every table gets the path that has been written for it, and that is all. -/
inductive WritesEach : FileTree → List Table → List Table → List String → FileTree → Prop
  | nil (files : FileTree) : WritesEach files [] [] [] files
  | cons {files between last : FileTree} {table : Table} {rest noted : List Table}
      {path text : String} {written : List String}
      (isFile : file files table = .ok (path, text))
      (isWritten : files.writeOutput path text = (between, none))
      (writes : files.Writes path text between)
      (later : WritesEach between rest noted written last) :
      WritesEach files (table :: rest) (table.writtenTo path :: noted) (path :: written) last

/-- The file of a table is not written: no entity can be made of the table, or its path cannot be
written to. No file is changed. Where `notes` holds, the table has got the path even so. -/
inductive FailsAt (notes : Bool) :
    FileTree → Table → Table → FileTree → GenerationError → Prop
  | noEntity {files : FileTree} {table : Table} {cause : EntityError}
      (noFile : file files table = .error cause) :
      FailsAt notes files table table files (.noEntity cause)
  | unwritable {files after : FileTree} {table : Table} {path text : String} {cause : FileError}
      (isFile : file files table = .ok (path, text))
      (notWritten : files.writeOutput path text = (after, some cause))
      (same : FileTree.SameFiles files after) :
      FailsAt notes files table (if notes then table.writtenTo path else table) after
        (.unwritable path cause)

/-- A run over tables in their order, up to the first failure. -/
inductive RunsInOrder (notes : Bool) (files : FileTree) (tables : List Table) (run : Generation) :
    Prop
  | complete (writes : WritesEach file files tables run.tables run.written run.files)
      (succeeds : run.failure = none)
  | broken {before after noted : List Table} {table left : Table} {between : FileTree}
      {failure : GenerationError} (split : tables = before ++ table :: after)
      (writes : WritesEach file files before noted run.written between)
      (fails : FailsAt file notes between table left run.files failure)
      (isFailure : run.failure = some failure) (rest : run.tables = noted ++ left :: after)

/-- One step of a run: the file of the table is written or the step fails. -/
inductive Steps (notes : Bool) (files : FileTree) (table : Table) (step : GenerationStep) : Prop
  | writes {path text : String} (isFile : file files table = .ok (path, text))
      (isWritten : files.writeOutput path text = (step.files, none))
      (noted : step.table = table.writtenTo path) (result : step.result = .ok path)
  | fails {failure : GenerationError}
      (fails : FailsAt file notes files table step.table step.files failure)
      (result : step.result = .error failure)

end

section

variable {file : FileTree → Table → Except EntityError (String × String)} {notes : Bool}

/-- Steps that write in order make a run that does. -/
theorem runsInOrder_forEach {step : FileTree → Table → GenerationStep}
    (steps : ∀ files table, Steps file notes files table (step files table)) (files : FileTree)
    (tables : List Table) :
    RunsInOrder file notes files tables (Generator.forEach step files tables) := by
  induction tables generalizing files with
  | nil => exact .complete (.nil files) rfl
  | cons table rest induction =>
    rw [Generator.forEach]
    rcases steps files table with ⟨isFile, isWritten, noted, result⟩ | ⟨fails, result⟩
    · rw [result]
      dsimp only
      rw [noted]
      have writes := FileTree.writes_of_writeOutput isWritten
      rcases induction (step files table).files with
        ⟨later, succeeds⟩ | ⟨split, later, fails, isFailure, rest⟩
      · exact .complete (.cons isFile isWritten writes later) succeeds
      · refine .broken (congrArg (table :: ·) split) (.cons isFile isWritten writes later) fails
          isFailure ?_
        exact congrArg (_ :: ·) rest
    · rw [result]
      exact .broken rfl (.nil files) fails rfl rfl

theorem WritesEach.map_withoutOutput {files last : FileTree} {tables noted : List Table}
    {written : List String} (writes : WritesEach file files tables noted written last) :
    noted.map Table.withoutOutput = tables.map Table.withoutOutput := by
  induction writes with
  | nil files => rfl
  | cons isFile isWritten writes later induction =>
    rw [List.map_cons, List.map_cons, induction, Table.withoutOutput_writtenTo]

theorem FailsAt.withoutOutput_eq {files after : FileTree} {table left : Table}
    {failure : GenerationError} (fails : FailsAt file notes files table left after failure) :
    left.withoutOutput = table.withoutOutput := by
  cases fails with
  | noEntity noFile => rfl
  | unwritable isFile notWritten same => cases notes <;> rfl

/-- Whatever comes of a run, the path of the file is all that changes in a table. -/
theorem RunsInOrder.map_withoutOutput {files : FileTree} {tables : List Table} {run : Generation}
    (runs : RunsInOrder file notes files tables run) :
    run.tables.map Table.withoutOutput = tables.map Table.withoutOutput := by
  cases runs with
  | complete writes succeeds => exact writes.map_withoutOutput
  | broken split writes fails isFailure rest =>
    rw [rest, split, List.map_append, List.map_append, List.map_cons, List.map_cons,
      writes.map_withoutOutput, fails.withoutOutput_eq]

end

/-! ## Entities and documents -/

namespace Generator

/-- A file is written for a table, or it is not and the table stays as it was. -/
theorem writeStep_cases (table : Table) (path text : String) (log : List LogEntry)
    (files : FileTree) :
    (∃ after, files.writeOutput path text = (after, none) ∧
      writeStep table path text log files =
        ⟨table, .ok path, after, log ++ [⟨.info, "Generated " ++ path⟩]⟩) ∨
    ∃ after cause, files.writeOutput path text = (after, some cause) ∧
      writeStep table path text log files =
        ⟨table, .error (.unwritable path cause), after, log⟩ := by
  rw [writeStep]
  split
  · rename_i after isWritten
    exact .inl ⟨after, isWritten, rfl⟩
  · rename_i after cause notWritten
    exact .inr ⟨after, cause, notWritten, rfl⟩

variable (generator : Generator)

theorem steps_entityStep (files : FileTree) (table : Table) :
    Steps generator.entityFile false files table (generator.entityStep files table) := by
  rw [entityStep]
  split
  · rename_i cause log failed
    have noFile : generator.entityFile files table = .error cause := by
      rw [entityFile, Entity.ofTable, failed]
      rfl
    exact .fails (.noEntity noFile) rfl
  · rename_i entity log built
    have isFile : generator.entityFile files table = .ok
        (outputPath files (generator.values table entity.moduleName) generator.template
            entity.moduleName "rs", (entity.source generator.formatter).text) := by
      rw [entityFile, Entity.ofTable, built]
      rfl
    dsimp only
    obtain ⟨after, isWritten, step⟩ | ⟨after, cause, notWritten, step⟩ := writeStep_cases table
      (outputPath files (generator.values table entity.moduleName) generator.template
        entity.moduleName "rs") (entity.source generator.formatter).text _ files
    · rw [step]
      exact .writes isFile isWritten rfl rfl
    · rw [step]
      have same := FileTree.sameFiles_of_writeOutput notWritten
      exact .fails (.unwritable isFile notWritten same) rfl

theorem steps_documentStep (files : FileTree) (table : Table) :
    Steps generator.documentFile true files table (generator.documentStep files table) := by
  obtain ⟨path, text, isFile, isStep⟩ : ∃ path text,
      generator.documentFile files table = .ok (path, text) ∧
      generator.documentStep files table = writeStep (table.writtenTo path) path text [] files :=
    ⟨_, _, rfl, rfl⟩
  rw [isStep]
  obtain ⟨after, isWritten, step⟩ | ⟨after, cause, notWritten, step⟩ :=
    writeStep_cases (table.writtenTo path) path text [] files
  · rw [step]
    exact .writes isFile isWritten rfl rfl
  · rw [step]
    have same := FileTree.sameFiles_of_writeOutput notWritten
    exact .fails (.unwritable isFile notWritten same) rfl

/-- Entities and documents are written in the order of the tables, each once and to the path that is
noted in its table. At a failure exactly the tables before it have been written; a document's path
is noted before it is written. Nothing else in a table ever changes. -/
theorem runs_in_order (files : FileTree) (tables : List Table) :
    RunsInOrder generator.entityFile false files tables (generator.entities files tables) ∧
    RunsInOrder generator.documentFile true files tables (generator.documents files tables) ∧
    (generator.entities files tables).tables.map Table.withoutOutput =
      tables.map Table.withoutOutput ∧
    (generator.documents files tables).tables.map Table.withoutOutput =
      tables.map Table.withoutOutput := by
  have entities := runsInOrder_forEach generator.steps_entityStep files tables
  have documents := runsInOrder_forEach generator.steps_documentStep files tables
  exact ⟨entities, documents, entities.map_withoutOutput, documents.map_withoutOutput⟩

end Generator

end SqlSchema
