import SqlSchema.Entity.Basic

/-!
Source code of entities: a header of comments, then the code. An entity becomes a struct with the
names of its table and columns as constants; the context declares the modules of all entities.
-/

namespace SqlSchema

open CodeToken

/-! ## Entities -/

namespace EntityField

/-- The declaration of a field. -/
def codeTokens (field : EntityField) : List CodeToken :=
  operator "#" ++ brackets (word "doc" :: operator "=" ++ [quoted (" " ++ field.description)])
    ++ operator "#"
    ++ brackets
      (word "serde" :: parens (word "rename" :: operator "=" ++ [quoted field.columnName]))
    ++ [word "pub", word field.name] ++ operator ":" ++ field.type.tokens ++ operator ","

end EntityField

/-- A reference to a text that lives as long as the program. -/
def staticText : List CodeToken :=
  operator "&" ++ lifetime "static" ++ [word "str"]

/-- A reference to a sequence of such texts. -/
def staticTexts : List CodeToken :=
  operator "&" ++ lifetime "static" ++ brackets staticText

/-- Texts as a constant sequence. -/
def textSequence (texts : List String) : List CodeToken :=
  operator "&" ++ brackets (commaSeparated (texts.map fun text => [quoted text]))

/-- The declaration of a public constant. -/
def constant (name : String) (type value : List CodeToken) : List CodeToken :=
  [word "pub", word "const", word name] ++ operator ":" ++ type ++ operator "=" ++ value
    ++ operator ";"

namespace Entity

/-- The name of the identity column as an optional value. -/
def identityValue (entity : Entity) : List CodeToken :=
  match entity.identityField? with
  | some field => word "Some" :: parens [quoted field.columnName]
  | none => [word "None"]

/-- The code of an entity. -/
def codeTokens (entity : Entity) : List CodeToken :=
  let traits := ["Debug", "Clone", "PartialEq", "Serialize", "Deserialize"]
  [word "use", word "serde"] ++ operator "::"
    ++ braces (commaSeparated [[word "Deserialize"], [word "Serialize"]]) ++ operator ";"
    ++ operator "#"
    ++ brackets (word "doc" :: operator "=" ++ [quoted (" " ++ entity.description)])
    ++ operator "#"
    ++ brackets (word "derive" :: parens (commaSeparated (traits.map fun name => [word name])))
    ++ [word "pub", word "struct", word entity.name]
    ++ braces (entity.fields.flatMap EntityField.codeTokens)
    ++ [word "impl", word entity.name]
    ++ braces
      (constant "SCHEMA_NAME" staticText [quoted entity.schema]
        ++ constant "TABLE_NAME" staticText [quoted entity.tableName]
        ++ constant "PRIMARY_KEY" staticTexts (textSequence entity.primaryKey)
        ++ constant "IDENTITY_COLUMN"
          (word "Option" :: operator "<" ++ staticText ++ operator ">") entity.identityValue
        ++ constant "COMPUTED_COLUMNS" staticTexts
          (textSequence (entity.computedFields.map EntityField.columnName)))

/-- The comments above the code of an entity. -/
def header (entity : Entity) : String :=
  "// Generated by sqltable-codegen from [" ++ entity.schema ++ "].[" ++ entity.tableName
    ++ "]\n// This file is generated - do not edit manually\n\n"

end Entity

/-! ## Context -/

namespace Context

/-- The declaration of an entity's module. -/
def moduleTokens (entity : Entity) : List CodeToken :=
  [word "pub", word "mod", word entity.module] ++ operator ";"

/-- The export of an entity's struct. -/
def exportTokens (entity : Entity) : List CodeToken :=
  [word "pub", word "use", word entity.module] ++ operator "::" ++ [word entity.name]
    ++ operator ";"

/-- The schema and the table of an entity. -/
def tableTokens (entity : Entity) : List CodeToken :=
  parens (commaSeparated [[quoted entity.schema], [quoted entity.tableName]])

/-- The code that declares all entities of a database. -/
def codeTokens (database : String) (entities : List Entity) : List CodeToken :=
  let text := operator "&" ++ [word "str"]
  entities.flatMap moduleTokens ++ entities.flatMap exportTokens
    ++ constant "DATABASE_NAME" text [quoted database]
    ++ operator "#"
    ++ brackets
      (word "doc" :: operator "=" ++
        [literal "r\" `(schema, table)` for every generated entity\""])
    ++ constant "TABLES" (operator "&" ++ brackets (parens (commaSeparated [text, text])))
      (operator "&" ++ brackets (commaSeparated (entities.map tableTokens)))

/-- The comments above the code of the context. -/
def header (database : String) : String :=
  "// Generated by sqltable-codegen for database " ++ database
    ++ "\n// This file is generated - do not edit manually\n\n"

end Context

/-! ## Formatting -/

/-- What a formatting program makes of code. -/
inductive FormatterReply where
  | formatted (code : String)
  /-- The output is no text. -/
  | garbled
  | failed (message : String)
  /-- The program could not be started. -/
  | unavailable (cause : String)
  deriving DecidableEq, Repr

/-- A formatting program. -/
abbrev Formatter := String → FormatterReply

namespace Formatter

/-- No program at all. -/
def missing : Formatter :=
  fun _ => .unavailable "No such file or directory (os error 2)"

/-- The formatted code; code that cannot be formatted stays as it is. -/
def format (formatter : Formatter) (code : String) : String :=
  match formatter code with
  | .formatted code => code
  | _ => code

/-- What the log says about formatting. -/
def log (formatter : Formatter) (code : String) : List LogEntry :=
  match formatter code with
  | .formatted _ | .garbled => []
  | .failed message => [⟨.debug, "rustfmt failed: " ++ message⟩]
  | .unavailable cause => [⟨.debug, "rustfmt not available: " ++ cause⟩]

end Formatter

/-- Source text and the log of making it. -/
structure Source where
  text : String
  log : List LogEntry

/-- A header and the formatted code. -/
def Source.of (formatter : Formatter) (header : String) (tokens : List CodeToken) : Source :=
  let code := layout tokens
  { text := header ++ formatter.format code, log := formatter.log code }

/-- The source of an entity. -/
def Entity.source (entity : Entity) (formatter : Formatter) : Source :=
  .of formatter entity.header entity.codeTokens

/-- The source of the context. -/
def Context.source (database : String) (entities : List Entity) (formatter : Formatter) :
    Source :=
  .of formatter (header database) (codeTokens database entities)

example :
    (Context.source "" [] .missing).text =
      "// Generated by sqltable-codegen for database \n// This file is generated - "
        ++ "do not edit manually\n\npub const DATABASE_NAME : & str = \"\" ; # [doc = r\" "
        ++ "`(schema, table)` for every generated entity\"] pub const TABLES : "
        ++ "& [(& str , & str)] = & [] ;" := by
  decide +kernel

end SqlSchema
