import SqlSchema.Code.Name
import SqlSchema.Entity.TypeMap
import SqlSchema.Table.Basic
import SqlSchema.Text.Blank

/-!
Entities: what is generated for a table. An entity has a field for every column; fields have
different identifiers even where columns have names that become the same.
-/

namespace SqlSchema

/-- A field of an entity. -/
structure EntityField where
  /-- The identifier of the field. -/
  name : String
  type : CodeType
  /-- The name of the column. -/
  columnName : String
  isPrimaryKey : Bool
  isNullable : Bool
  isIdentity : Bool
  isComputed : Bool
  description : String
  deriving DecidableEq, Repr

/-- An entity. -/
structure Entity where
  /-- The identifier of the struct. -/
  name : String
  /-- The name of the module, which is also the stem of its file. -/
  moduleName : String
  /-- The identifier of the module. -/
  module : String
  schema : String
  tableName : String
  fields : List EntityField
  /-- The names of the columns of the key. -/
  primaryKey : List String
  description : String
  deriving DecidableEq, Repr

namespace Entity

/-! ## Identifiers -/

/-- A name and its numbered variants, `count` of them. -/
def candidates (base : String) (count : Nat) : List String :=
  base :: (List.range count).map fun index => base ++ "_" ++ toString (index + 2)

/-- The first identifier for a name or a numbered variant of it that is not used yet. There are more
variants than used identifiers. -/
def freshIdentifier? (used : List String) (base : String) : Option String :=
  if base.isEmpty then none
  else
    ((candidates base used.length).filterMap Identifier.ofCandidate?).find? (!used.contains ·)

example : freshIdentifier? ["self_"] "self" = some "self_2" := by decide +kernel

/-! ## Fields -/

/-- The field of a column. -/
def field (name : String) (type : CodeType) (column : Column) : EntityField where
  name
  type
  columnName := column.name
  isPrimaryKey := column.isPrimaryKey
  isNullable := column.isNullable
  isIdentity := column.isIdentity
  isComputed := column.isComputed
  description := Text.trimEnd column.description

/-- The fields of columns beside the identifiers that are used already, and the log. The first
column without an identifier or a type ends it. -/
def fieldsOf (types : TypeMap) (used : List String) :
    List Column → Except EntityError (List EntityField) × List LogEntry
  | [] => (.ok [], [])
  | column :: rest =>
    match freshIdentifier? used (Name.snakeCase column.name) with
    | none => (.error (.invalidIdentifier column.name), [])
    | some name =>
      match types.columnType column with
      | .error error => (.error error, types.columnLog column)
      | .ok type =>
        let (fields, log) := fieldsOf types (name :: used) rest
        (fields.map (field name type column :: ·), types.columnLog column ++ log)

/-! ## Tables -/

/-- The entity of a table with the given fields. -/
def withFields? (table : Table) (fields : List EntityField) : Except EntityError Entity :=
  let moduleName := Name.snakeCase table.name
  match Identifier.ofCandidate? (Name.pascalCase table.name),
    Identifier.ofCandidate? moduleName with
  | some name, some module =>
    .ok
      { name, moduleName, module, schema := table.schema, tableName := table.name, fields
        primaryKey := table.primaryKey.names, description := Text.trimEnd table.description }
  | _, _ => .error (.invalidIdentifier table.name)

/-- The entity of a table and the log. -/
def build (types : TypeMap) (table : Table) : Except EntityError Entity × List LogEntry :=
  let (fields, log) := fieldsOf types [] table.columns
  (fields.bind (withFields? table), log)

/-- The entity of a table. -/
def ofTable (types : TypeMap) (table : Table) : Except EntityError Entity :=
  (build types table).1

/-! ## Views -/

def primaryKeyFields (entity : Entity) : List EntityField :=
  entity.fields.filter EntityField.isPrimaryKey

/-- The first field of an identity column. -/
def identityField? (entity : Entity) : Option EntityField :=
  entity.fields.find? EntityField.isIdentity

def computedFields (entity : Entity) : List EntityField :=
  entity.fields.filter EntityField.isComputed

example :
    (ofTable .builtin
        { schema := "dbo", name := "order_line"
          columns := [{ name := "Id", dataType := "INT" }, { name := "id", dataType := "INT" }] }
      ).toOption.map (fun entity => (entity.name, entity.fields.map EntityField.name)) =
      some ("OrderLine", ["id", "id_2"]) := by
  decide +kernel

end Entity

end SqlSchema
