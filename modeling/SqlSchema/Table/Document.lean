import SqlSchema.Table.Json

/-!
The document of a table: its JSON with what follows from its fields, such as whether a column is
part of the key, and without anything that has its default value.
-/

namespace SqlSchema

open JsonValue

/-! ## Defaults -/

namespace JsonValue

/-- Whether a field is left out of a document: null, false, zero and a constraint of kind none. -/
def isDefault (key : String) : JsonValue → Bool
  | null => true
  | bool value => !value
  | integer value => value == 0
  | decimal mantissa _ => mantissa == 0
  | string text => key == "constraintType" && text == ConstraintKind.none.name
  | _ => false

mutual

/-- The value without the fields that are left out of a document. -/
def withoutDefaults : JsonValue → JsonValue
  | array items => array (itemsWithoutDefaults items)
  | object fields => object (fieldsWithoutDefaults fields)
  | value => value

def itemsWithoutDefaults : List JsonValue → List JsonValue
  | [] => []
  | item :: rest => withoutDefaults item :: itemsWithoutDefaults rest

def fieldsWithoutDefaults : List (String × JsonValue) → List (String × JsonValue)
  | [] => []
  | (key, value) :: rest =>
    if isDefault key value then fieldsWithoutDefaults rest
    else (key, withoutDefaults value) :: fieldsWithoutDefaults rest

end

end JsonValue

/-! ## Documents -/

namespace Column

/-- What a document says about a column beyond its fields. -/
def derivedFields (column : Column) : List (String × JsonValue) :=
  [("isPrimaryKey", bool column.isPrimaryKey), ("isIdentity", bool column.isIdentity),
    ("isPrimaryKeyConstraint", bool (column.constraint == .primaryKey)),
    ("isIdentityConstraint", bool (column.constraint == .identity)),
    ("isNull", bool (column.constraint == .null)),
    ("isNotNull", bool (column.constraint == .notNull)),
    ("isDefault", bool (column.constraint == .default)),
    ("isForeignKey", bool (column.constraint == .foreignKey)),
    ("isRowGuidCol", bool (column.constraint == .rowGuid)),
    ("isUnique", bool (column.constraint == .unique)),
    ("isCheck", bool (column.constraint == .check))]

end Column

namespace Table

/-- A part of a path: null where there is none or it is empty. -/
def pathValue (part : Option String) : JsonValue :=
  match part with
  | some text => if text.isEmpty then null else string text
  | none => null

/-- What a document says about a table beyond its fields. -/
def derivedFields (table : Table) : List (String × JsonValue) :=
  [("multiplePrimaryKeys", bool table.hasCompositeKey),
    ("hasIdentityColumn", bool table.hasIdentity),
    ("sourceFolder", pathValue (Path.parent? table.sourcePath)),
    ("sourceFileName", pathValue (Path.fileName? table.sourcePath)),
    ("sourceBaseFileName", pathValue (Path.fileStem? table.sourcePath)),
    ("outputFolder", pathValue (table.outputPath.bind Path.parent?)),
    ("outputFileName", pathValue (table.outputPath.bind Path.fileName?)),
    ("outputBaseFileName", pathValue (table.outputPath.bind Path.fileStem?))]

/-- The document of a table. -/
def document (table : Table) : JsonValue :=
  let columns := table.columns.map fun column => object (column.jsonFields ++ column.derivedFields)
  (object (table.jsonFieldsWith columns ++ table.derivedFields)).withoutDefaults

/-- The text of the document. -/
def documentText (table : Table) : String :=
  table.document.text

end Table

end SqlSchema
