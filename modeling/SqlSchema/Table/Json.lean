import SqlSchema.Json.Value
import SqlSchema.Table.Basic

/-!
Tables as JSON. Written, every field is present except those without a value. Read, only the schema
and the name of a table are required; a field that is missing has its default, a field that is not
known is passed over, and a value of another kind is refused. A table and a column may also be
written as a list of their fields in order.
-/

namespace SqlSchema

/-! ## Writing -/

namespace JsonValue

/-- A field that is left out when it has no value. -/
def optionalField {α : Type} (key : String) (encode : α → JsonValue) (value : Option α) :
    List (String × JsonValue) :=
  (value.map fun value => (key, encode value)).toList

def ofUInt32 (value : UInt32) : JsonValue :=
  integer value.toNat

end JsonValue

open JsonValue

namespace Column

/-- The fields of a column. -/
def jsonFields (column : Column) : List (String × JsonValue) :=
  [("name", string column.name), ("dataType", string column.dataType)]
    ++ optionalField "dataTypeExtraInfo1" ofUInt32 column.argument1
    ++ optionalField "dataTypeExtraInfo2" ofUInt32 column.argument2
    ++ [("computed", bool column.isComputed)]
    ++ optionalField "referenceColumn" string column.referenceText
    ++ [("constraintType", string column.constraint.name),
      ("isPrimaryKeyExplicit", bool column.isMarkedKey),
      ("isIdentityColumnExplicit", bool column.isMarkedIdentity), ("sql", string column.sql)]

def toJson (column : Column) : JsonValue :=
  object column.jsonFields

end Column

namespace Table

/-- The fields of a table, with its columns as given. -/
def jsonFieldsWith (table : Table) (columns : List JsonValue) : List (String × JsonValue) :=
  [("schema", string table.schema), ("name", string table.name), ("columns", array columns),
    ("primaryKeyColumns", array (table.primaryKey.names.map string)),
    ("sourceFilePath", string table.sourcePath)]
    ++ optionalField "outputFilePath" string table.outputPath
    ++ [("sql", string table.sql)]

def toJson (table : Table) : JsonValue :=
  object (table.jsonFieldsWith (table.columns.map Column.toJson))

end Table

/-! ## Reading -/

namespace JsonValue

def toString? : JsonValue → Option String
  | string value => some value
  | _ => none

def toBool? : JsonValue → Option Bool
  | bool value => some value
  | _ => none

/-- An integer of 32 bits. -/
def toUInt32? : JsonValue → Option UInt32
  | integer value =>
    if 0 ≤ value ∧ value.toNat < UInt32.size then some (UInt32.ofNat value.toNat) else none
  | _ => none

/-- A value that may be `null`. -/
def toOption? {α : Type} (decode : JsonValue → Option α) : JsonValue → Option (Option α)
  | null => some none
  | value => (decode value).map some

/-- A list of values of one kind. -/
def toList? {α : Type} (decode : JsonValue → Option α) : JsonValue → Option (List α)
  | array items => items.mapM decode
  | _ => none

/-- The name of a constraint kind, alone or as the key of an object whose value is `null`. -/
def toConstraintKind? : JsonValue → Option ConstraintKind
  | string name => ConstraintKind.ofName? name
  | object [(name, null)] => ConstraintKind.ofName? name
  | _ => none

/-- The fields of a record in order, each as given or none. An object gives them by name; a list
gives the first ones and may not be longer than the record. -/
def recordFields? (keys : List String) : JsonValue → Option (List (Option JsonValue))
  | object fields => some (keys.map (field? fields))
  | array items =>
    if items.length ≤ keys.length then
      some (items.map some ++ List.replicate (keys.length - items.length) none)
    else none
  | _ => none

/-- A field with a default. -/
def fieldOr? {α : Type} (default : α) (decode : JsonValue → Option α) :
    Option JsonValue → Option α
  | none => some default
  | some value => decode value

end JsonValue

namespace Column

/-- The fields of a column in order. -/
def jsonKeys : List String :=
  ["name", "dataType", "dataTypeExtraInfo1", "dataTypeExtraInfo2", "computed", "referenceColumn",
    "constraintType", "isPrimaryKeyExplicit", "isIdentityColumnExplicit", "sql"]

/-- The column that a JSON value describes. -/
def ofJson? (value : JsonValue) : Option Column := do
  let [name, dataType, argument1, argument2, computed, reference, constraint, markedKey,
    markedIdentity, sql] ← recordFields? jsonKeys value | none
  some
    { name := ← fieldOr? "" toString? name
      dataType := ← fieldOr? "" toString? dataType
      argument1 := ← fieldOr? none (toOption? toUInt32?) argument1
      argument2 := ← fieldOr? none (toOption? toUInt32?) argument2
      isComputed := ← fieldOr? false toBool? computed
      referenceText := ← fieldOr? none (toOption? toString?) reference
      constraint := ← fieldOr? .none toConstraintKind? constraint
      isMarkedKey := ← fieldOr? false toBool? markedKey
      isMarkedIdentity := ← fieldOr? false toBool? markedIdentity
      sql := ← fieldOr? "" toString? sql }

end Column

namespace Table

/-- The fields of a table in order. -/
def jsonKeys : List String :=
  ["schema", "name", "columns", "primaryKeyColumns", "sourceFilePath", "outputFilePath", "sql"]

/-- The table that a JSON value describes. The names of the key may come in any order. -/
def ofJson? (value : JsonValue) : Option Table := do
  let [some schema, some name, columns, key, source, output, sql] ← recordFields? jsonKeys value
    | none
  some
    { schema := ← toString? schema
      name := ← toString? name
      columns := ← fieldOr? [] (toList? Column.ofJson?) columns
      primaryKey := Key.ofList (← fieldOr? [] (toList? toString?) key)
      sourcePath := ← fieldOr? "" toString? source
      outputPath := ← fieldOr? none (toOption? toString?) output
      sql := ← fieldOr? "" toString? sql }

/-- Only schema and name are required, and fields of other names are passed over. -/
example :
    (ofJson? (object [("name", string "T"), ("other", null), ("schema", string "dbo")])) =
      some { schema := "dbo", name := "T" } := by
  decide +kernel

end Table

end SqlSchema
