import SqlSchema.Entity.Source
import SqlSchema.File.Access
import SqlSchema.Output.Template
import SqlSchema.Table.Document

/-!
Generation: files for a list of tables. Tables are done in their order, and the first failure ends
it; what has been written before stays.
-/

namespace SqlSchema

/-- Why generation ends early. -/
inductive GenerationError where
  | noEntity (cause : EntityError)
  | unwritable (path : String) (cause : FileError)
  deriving DecidableEq, Repr

def GenerationError.message : GenerationError → String
  | noEntity cause => cause.message
  | unwritable path cause => "failed to write " ++ path ++ ": " ++ cause.message

/-- What came of generating files. -/
structure Generation where
  /-- The tables, where written with the path of their file. -/
  tables : List Table
  /-- The paths of the files that have been written. -/
  written : List String
  files : FileTree
  failure : Option GenerationError
  log : List LogEntry

/-- What came of one table. -/
structure GenerationStep where
  table : Table
  /-- The path that has been written. -/
  result : Except GenerationError String
  files : FileTree
  log : List LogEntry

/-- Where and how files are generated. -/
structure Generator where
  database : String
  /-- The template of output paths. -/
  template : String
  types : TypeMap
  formatter : Formatter

namespace Generator

/-! ## Paths -/

/-- What a path template is expanded to for a table whose entity has the given module name. -/
def values (generator : Generator) (table : Table) (moduleName : String) : TemplateValues where
  database := generator.database
  schema := table.schema
  table := table.name
  entity := moduleName

/-- A path, or the file `fileName` in it if it is a directory. -/
def intoDirectory (files : FileTree) (path fileName : String) : String :=
  if files.isDirectory path then Path.join path fileName else path

/-- The path that a template gives; in a directory, the file has the name `stem` and an
extension. -/
def outputPath (files : FileTree) (values : TemplateValues) (template stem extension : String) :
    String :=
  intoDirectory files (values.expand template) (stem ++ "." ++ extension)

/-! ## Writing -/

/-- Writes a file for a table. -/
def writeStep (table : Table) (path text : String) (log : List LogEntry) (files : FileTree) :
    GenerationStep :=
  match files.writeOutput path text with
  | (files, none) => ⟨table, .ok path, files, log ++ [⟨.info, "Generated " ++ path⟩]⟩
  | (files, some cause) => ⟨table, .error (.unwritable path cause), files, log⟩

/-- Does one table after the other. -/
def forEach (step : FileTree → Table → GenerationStep) (files : FileTree) :
    List Table → Generation
  | [] => ⟨[], [], files, none, []⟩
  | table :: rest =>
    let done := step files table
    match done.result with
    | .error failure => ⟨done.table :: rest, [], done.files, some failure, done.log⟩
    | .ok path =>
      let later := forEach step done.files rest
      { later with
        tables := done.table :: later.tables
        written := path :: later.written
        log := done.log ++ later.log }

/-! ## Entities -/

/-- The file of one entity. Its path is noted in the table once it has been written. -/
def entityStep (generator : Generator) (files : FileTree) (table : Table) : GenerationStep :=
  match Entity.build generator.types table with
  | (.error cause, log) => ⟨table, .error (.noEntity cause), files, log⟩
  | (.ok entity, log) =>
    let path :=
      outputPath files (generator.values table entity.moduleName) generator.template
        entity.moduleName "rs"
    let source := entity.source generator.formatter
    let step :=
      writeStep table path source.text (log ++ source.log ++ [⟨.debug, source.text⟩]) files
    match step.result with
    | .ok path => { step with table := { table with outputPath := some path } }
    | .error _ => step

/-- One file for every entity. -/
def entities (generator : Generator) (files : FileTree) (tables : List Table) : Generation :=
  forEach generator.entityStep files tables

/-! ## Context -/

/-- The entities of tables and the log, up to the first table without one. -/
def entitiesOf (types : TypeMap) : List Table → Except EntityError (List Entity) × List LogEntry
  | [] => (.ok [], [])
  | table :: rest =>
    match Entity.build types table with
    | (.error cause, log) => (.error cause, log)
    | (.ok entity, log) =>
      let (entities, later) := entitiesOf types rest
      (entities.map (entity :: ·), log ++ later)

/-- One file that declares all entities. -/
def context (generator : Generator) (files : FileTree) (tables : List Table) : Generation :=
  match entitiesOf generator.types tables with
  | (.error cause, log) => ⟨tables, [], files, some (.noEntity cause), log⟩
  | (.ok entities, log) =>
    let values : TemplateValues := { database := generator.database }
    let path := intoDirectory files (values.expand generator.template) "mod.rs"
    let source := Context.source generator.database entities generator.formatter
    let log := log ++ source.log ++ [⟨.debug, source.text⟩]
    match files.writeOutput path source.text with
    | (files, none) => ⟨tables, [path], files, none, log ++ [⟨.info, "Generated " ++ path⟩]⟩
    | (files, some cause) => ⟨tables, [], files, some (.unwritable path cause), log⟩

/-! ## Documents -/

/-- The document of one table. Its own path is part of it and noted before it is written. -/
def documentStep (generator : Generator) (files : FileTree) (table : Table) : GenerationStep :=
  let values := generator.values table (Name.snakeCase table.name)
  let path :=
    Path.withExtension (outputPath files values generator.template table.name "json") "json"
  let table := { table with outputPath := some path }
  writeStep table path table.documentText [] files

/-- One document for every table. -/
def documents (generator : Generator) (files : FileTree) (tables : List Table) : Generation :=
  forEach generator.documentStep files tables

end Generator

end SqlSchema
