import SqlSchema.File.Access
import SqlSchema.Setting.Address
import SqlSchema.Setting.Toml
import SqlSchema.Table.Outcome
import SqlSchema.Text.Utf8

/-!
Reading options from a settings file and the environment. Variables of the environment win over the
file; a file that is missing or cannot be read counts as empty.
-/

namespace SqlSchema

/-- A variable of the environment: its name and its value. -/
abbrev EnvironmentVariable := String × String

namespace Setting

/-! ## Environment -/

/-- What the names of variables that hold settings begin with, in any case. -/
def variableMark : String := "sqltable__"

/-- `text` with every `__` made a point, read from the left. -/
def pointed : List Char → List Char
  | '_' :: '_' :: rest => '.' :: pointed rest
  | char :: rest => char :: pointed rest
  | [] => []

/-- The address of the setting that a variable holds, as text, if it holds one. -/
def variableKey? (name : String) : Option String :=
  let lower := (Text.lowerCase name).toList
  if variableMark.toList.isPrefixOf lower then
    some (String.ofList (pointed (lower.drop variableMark.length)))
  else none

/-- The settings of the environment, each with its address. -/
def ofEnvironment (environment : List EnvironmentVariable) : List (String × Setting) :=
  environment.filterMap fun (name, value) =>
    (variableKey? name).map fun key => (key, ofPlainText value)

example : variableKey? "SQLTABLE__PARSER__DEFAULT_SCHEMA" = some "parser.default_schema" := by
  decide +kernel

end Setting

namespace ReadingOptions

/-! ## Options -/

/-- The options of a section with these fields; a missing field has its default. -/
def ofFields? (tracing schema : Option Setting) : Option ReadingOptions := do
  let isTracing ←
    match tracing with
    | none => some false
    | some value => value.asBool?
  let defaultSchema ←
    match schema with
    | none => some "dbo"
    | some value => value.asText?
  return { isTracing, defaultSchema }

/-- The options of the section `parser`, whose fields can also stand in a list. -/
def ofEntries? (entries : List (String × Setting)) : Option ReadingOptions :=
  match entries.lookup "parser" with
  | none => some {}
  | some (.table fields) =>
    ofFields? (fields.lookup "diagnostic_mode") (fields.lookup "default_schema")
  | some (.list items) => ofFields? items[0]? items[1]?
  | some _ => none

/-- The extension of settings files. -/
def fileExtension : String := "toml"

/-- The file that a path stands for: a file with the extension of settings files, which may be left
out. -/
def settingsFile? (files : FileTree) (path : String) : Option String :=
  if files.isFile path then
    if Path.extension? path = some fileExtension then some path else none
  else (Path.addExtension? path fileExtension).filter files.isFile

/-- The entries of a settings file; none if there is no such file or it cannot be read. Bytes that
are no text do not keep it from being read. -/
def fileEntries (files : FileTree) (path : String) : List (String × Setting) :=
  match (settingsFile? files path).map files.readBytes with
  | some (.ok bytes) => (Toml.read? (Toml.withoutMark (Text.decode bytes))).getD []
  | _ => []

/-- The usual names of the variables that set options. -/
def variableNames : List String :=
  ["SQLTABLE__PARSER__DIAGNOSTIC_MODE", "SQLTABLE__PARSER__DEFAULT_SCHEMA"]

/-- The file that is read if no other is named. -/
def defaultPath : String := "config/config.toml"

/-- The options from a file and the environment; none if a setting has a value of a wrong kind. -/
def load? (files : FileTree) (environment : List EnvironmentVariable) (path : String) :
    Option ReadingOptions :=
  let ofFile := Setting.withSource (fileEntries files path) (.table [])
  let all := Setting.withSource (Setting.ofEnvironment environment) ofFile
  ofEntries? all.entries

/-- Sections that differ in case only are one, and a variable wins over the file. -/
example :
    let files := FileTree.directory
      [("c.toml", .file "[Parser]\nDEFAULT_SCHEMA = 'a'\n[PARSER]\ndiagnostic_mode = 1".toUTF8)]
    load? files [("SQLTABLE__PARSER__DEFAULT_SCHEMA", "07")] "c" =
      some { isTracing := true, defaultSchema := "7" } := by
  decide +kernel

end ReadingOptions

end SqlSchema
