import SqlSchema.Token.Basic

/-!
The tree of a `CREATE TABLE` statement. Below the statement everything is a `Node`: the constructs
that matter for the schema have constructors of their own, all other syntax is `unknown`. Every node
keeps the text it was read from.
-/

namespace SqlSchema

/-- The kinds of constraint that a column can carry. -/
inductive ConstraintKind where
  | none
  | null
  | notNull
  | default
  | primaryKey
  | foreignKey
  | identity
  | rowGuid
  | unique
  | check
  deriving DecidableEq, Repr

/-- A data type with its arguments, such as `DECIMAL(18, 2)` or `[dbo].[Phone]`. -/
structure DataType where
  schema? : Option String
  name : String
  argument1 : Option UInt32
  argument2 : Option UInt32
  /-- Whether the length is `MAX`. -/
  isMaximum : Bool
  sql : String
  deriving DecidableEq, Repr

/-- The name with its schema, if it has one. -/
def DataType.display (type : DataType) : String :=
  match type.schema? with
  | some schema => schema ++ "." ++ type.name
  | none => type.name

mutual

/-- A piece of syntax. -/
inductive Node where
  | column (children : List Node) (sql : String)
  | computedColumn (children : List Node) (sql : String)
  /-- A primary key of a column or of the table. -/
  | primaryKey (children : List Node) (sql : String)
  /-- Any other constraint. -/
  | constraint (kind : ConstraintKind) (sql : String)
  | identifier (value : String) (sql : String)
  | dataType (type : DataType)
  | identity (sql : String)
  | collation (sql : String)
  | indexedColumn (name : String) (sql : String)
  | indexOption (sql : String)
  | caseExpression (operand : Option Node) (clauses : List WhenClause) (otherwise : Option Node)
      (sql : String)
  | call (function : String) (arguments : List Node) (sql : String)
  | columnRef (name : String) (sql : String)
  | literal (kind : LiteralKind) (value : String) (sql : String)
  /-- Syntax that no rule covers, under the name of its class. -/
  | unknown (typeName : String) (sql : String)

/-- `WHEN condition THEN result`. -/
inductive WhenClause where
  | mk (condition result : Node) (sql : String)

end

instance : Inhabited Node := ⟨.unknown "" ""⟩

instance : Inhabited WhenClause := ⟨.mk default default ""⟩

/-- The elements of a table between parentheses. -/
structure TableDefinition where
  children : List Node
  sql : String

/-- One `CREATE TABLE` statement. -/
structure CreateTable where
  schema : String
  name : String
  /-- The text of the whole statement. -/
  sql : String
  definition : TableDefinition

/-- A statement of a script. -/
inductive Statement where
  | createTable (statement : CreateTable)
  /-- Any other statement, as text. -/
  | other (sql : String)

namespace ConstraintKind

/-- The name under which the kind is stored. -/
def name : ConstraintKind → String
  | .none => "None"
  | .null => "Null"
  | .notNull => "NotNull"
  | .default => "Default"
  | .primaryKey => "PrimaryKey"
  | .foreignKey => "ForeignKey"
  | .identity => "Identity"
  | .rowGuid => "RowGuidCol"
  | .unique => "Unique"
  | .check => "Check"

/-- All kinds. -/
def all : List ConstraintKind :=
  [.none, .null, .notNull, .default, .primaryKey, .foreignKey, .identity, .rowGuid, .unique, .check]

/-- The kind stored under `text`. -/
def ofName? (text : String) : Option ConstraintKind :=
  all.find? fun kind => kind.name == text

theorem ofName?_name (kind : ConstraintKind) : ofName? kind.name = some kind := by
  cases kind <;> decide +kernel

end ConstraintKind

namespace LiteralKind

/-- The name of the kind, which also serves as the type of a column. -/
def name : LiteralKind → String
  | .integer => "Integer"
  | .numeric => "Numeric"
  | .real => "Real"
  | .string => "String"
  | .unicodeString => "UnicodeString"
  | .binary => "Binary"
  | .money => "Money"
  | .null => "Null"

/-- All kinds. -/
def all : List LiteralKind :=
  [.integer, .numeric, .real, .string, .unicodeString, .binary, .money, .null]

end LiteralKind

namespace WhenClause

def condition : WhenClause → Node
  | mk condition _ _ => condition

def result : WhenClause → Node
  | mk _ result _ => result

def sql : WhenClause → String
  | mk _ _ sql => sql

end WhenClause

namespace Node

/-- The name of the node's class, as diagnostics report it. -/
def typeName : Node → String
  | column .. => "ColumnDefinition"
  | computedColumn .. => "ComputedColumnDefinition"
  | primaryKey .. => "PrimaryKeyConstraint"
  | constraint .. => "Constraint"
  | identifier .. => "Identifier"
  | dataType .. => "DataTypeSpecification"
  | identity .. => "ColumnIdentity"
  | collation .. => "Collation"
  | indexedColumn .. => "IndexedColumn"
  | indexOption .. => "IndexOption"
  | caseExpression .. => "CaseExpression"
  | call .. => "FunctionCallExpression"
  | columnRef .. => "ColumnRefExpression"
  | literal .. => "LiteralExpression"
  | unknown typeName _ => typeName

/-- The text that the node was read from. -/
def sql : Node → String
  | column _ sql => sql
  | computedColumn _ sql => sql
  | primaryKey _ sql => sql
  | constraint _ sql => sql
  | identifier _ sql => sql
  | dataType type => type.sql
  | identity sql => sql
  | collation sql => sql
  | indexedColumn _ sql => sql
  | indexOption sql => sql
  | caseExpression _ _ _ sql => sql
  | call _ _ sql => sql
  | columnRef _ sql => sql
  | literal _ _ sql => sql
  | unknown _ sql => sql

end Node

end SqlSchema
