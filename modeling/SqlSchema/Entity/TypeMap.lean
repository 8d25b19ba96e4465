import SqlSchema.Code.Type
import SqlSchema.Diagnostic
import SqlSchema.Table.Column
import SqlSchema.Text.Case

/-!
The type map: which Rust type stands for a SQL type. Names of SQL types match in any case; entries
added later win over earlier ones and over the built-in ones.
-/

namespace SqlSchema

/-- Why a table has no entity. -/
inductive EntityError where
  /-- The text is not a type. -/
  | invalidType (codeType sqlType : String)
  /-- The name has no ASCII letter or digit. -/
  | invalidIdentifier (name : String)
  deriving DecidableEq, Repr

def EntityError.message : EntityError → String
  | invalidType codeType sqlType =>
    "invalid Rust type `" ++ codeType ++ "` for SQL type " ++ sqlType
  | invalidIdentifier name => "cannot derive a Rust identifier from `" ++ name ++ "`"

/-- A map from SQL types to types of code, the latest entry first. -/
structure TypeMap where
  /-- The upper-case name of a SQL type and the text of a type. -/
  entries : List (String × String)
  deriving DecidableEq, Repr

namespace TypeMap

/-- The type for SQL types that are not in the map. -/
def fallback : String := "String"

/-- The built-in map. Computed columns with a literal for a value have types such as `INTEGER` and
`UNICODESTRING`. -/
def builtin : TypeMap where
  entries :=
    [("BIT", "bool"), ("TINYINT", "u8"), ("SMALLINT", "i16"), ("INT", "i32"), ("BIGINT", "i64"),
      ("REAL", "f32"), ("FLOAT", "f64"), ("DECIMAL", "f64"), ("NUMERIC", "f64"),
      ("MONEY", "f64"), ("SMALLMONEY", "f64"), ("CHAR", "String"), ("VARCHAR", "String"),
      ("NCHAR", "String"), ("NVARCHAR", "String"), ("TEXT", "String"), ("NTEXT", "String"),
      ("SYSNAME", "String"), ("XML", "String"), ("DATE", "chrono::NaiveDate"),
      ("TIME", "chrono::NaiveTime"), ("DATETIME", "chrono::NaiveDateTime"),
      ("DATETIME2", "chrono::NaiveDateTime"), ("SMALLDATETIME", "chrono::NaiveDateTime"),
      ("DATETIMEOFFSET", "chrono::DateTime<chrono::FixedOffset>"),
      ("UNIQUEIDENTIFIER", "uuid::Uuid"), ("BINARY", "Vec<u8>"), ("VARBINARY", "Vec<u8>"),
      ("IMAGE", "Vec<u8>"), ("ROWVERSION", "Vec<u8>"), ("TIMESTAMP", "Vec<u8>"),
      ("INTEGER", "i32"), ("STRING", "String"), ("UNICODESTRING", "String")]

instance : Inhabited TypeMap := ⟨builtin⟩

/-- The text of the type for a SQL type, if there is an entry. -/
def find? (map : TypeMap) (sqlType : String) : Option String :=
  map.entries.lookup (Text.upperCase sqlType)

def contains (map : TypeMap) (sqlType : String) : Bool :=
  (map.find? sqlType).isSome

/-- The text of the type for a SQL type. -/
def typeText (map : TypeMap) (sqlType : String) : String :=
  (map.find? sqlType).getD fallback

/-- The text for a SQL type is that of an entry, or the fallback. -/
theorem typeText_mem_or_eq (map : TypeMap) (sqlType : String) :
    (∃ entry ∈ map.entries, entry.2 = map.typeText sqlType) ∨ map.typeText sqlType = fallback := by
  unfold typeText
  cases found : map.find? sqlType with
  | none => exact .inr rfl
  | some text =>
    obtain ⟨before, after, split, _⟩ := List.lookup_eq_some_iff.mp found
    refine .inl ⟨(Text.upperCase sqlType, text), ?_, rfl⟩
    rw [split]
    exact List.mem_append_right before List.mem_cons_self

/-- Adds an entry; the text has to be a type. -/
def insert (map : TypeMap) (sqlType codeType : String) : Except EntityError TypeMap :=
  match CodeType.ofText? codeType with
  | some _ => .ok ⟨(Text.upperCase sqlType, codeType) :: map.entries⟩
  | none => .error (.invalidType codeType sqlType)

/-- Adds entries one after the other, up to the first that is refused. -/
def insertAll (map : TypeMap) (pairs : List (String × String)) : Except EntityError TypeMap :=
  pairs.foldlM (fun map (sqlType, codeType) => map.insert sqlType codeType) map

/-! ## Types of columns -/

/-- The text of the type of a column: optional if a value may be missing. -/
def columnTypeText (map : TypeMap) (column : Column) : String :=
  let text := map.typeText column.dataType
  if column.isNullable then "Option<" ++ text ++ ">" else text

/-- The type of a column. -/
def columnType (map : TypeMap) (column : Column) : Except EntityError CodeType :=
  let text := map.columnTypeText column
  match CodeType.ofText? text with
  | some type => .ok type
  | none => .error (.invalidType text column.dataType)

/-- What the log says about a column whose type is not in the map. -/
def columnLog (map : TypeMap) (column : Column) : List LogEntry :=
  if map.contains column.dataType then []
  else
    [⟨.warn, "No Rust type for " ++ column.dataType ++ " on column " ++ column.name ++ ", using "
      ++ fallback⟩]

example : (builtin.typeText "nvarchar", builtin.typeText "geometry") = ("String", "String") := by
  decide +kernel

example : ((builtin.columnType { dataType := "date" }).toOption.map CodeType.text) =
    some "Option < chrono :: NaiveDate >" := by
  decide +kernel

end TypeMap

end SqlSchema
