import SqlSchema.Proofs.Key
import SqlSchema.Proofs.Outcome

/-!
The keys that a statement declares. Keys are declared beside the columns and with a column, with a
list of names or for the column itself. The key of an accepted table is made of all names that are
declared beside the columns and with columns that are not computed, in the order of the statement.
-/

namespace SqlSchema

/-! ## Declared names -/

namespace Node

/-- The name at the front of a declaration. -/
def declaredName : List Node → String
  | .identifier name _ :: _ => name
  | _ => ""

/-- The names that an option of the column `owner` declares as a key. -/
def inlineKey (owner : String) : Node → List String
  | .primaryKey children _ =>
    match Extraction.listedColumns children with
    | [] => [owner]
    | names => names
  | _ => []

/-- The names that an element of a table declares as a key. -/
def declaredKey : Node → List String
  | .column children _ => children.flatMap (inlineKey (declaredName children))
  | .computedColumn children _ => children.flatMap (inlineKey (declaredName children))
  | .primaryKey children _ => Extraction.listedColumns children
  | _ => []

/-- The names that an element declares as a key, if it is no computed column. -/
def plainKey : Node → List String
  | .computedColumn .. => []
  | element => element.declaredKey

def isIdentifier : Node → Bool
  | .identifier .. => true
  | _ => false

end Node

/-- The names that a statement declares as a key, in its order. -/
def CreateTable.declaredKey (statement : CreateTable) : List String :=
  statement.definition.children.flatMap Node.declaredKey

/-- The names that a statement declares as a key outside of computed columns, in its order. -/
def CreateTable.plainKey (statement : CreateTable) : List String :=
  statement.definition.children.flatMap Node.plainKey

/-- Whether no computed column of the statement declares a key. -/
def CreateTable.ComputesNoKey (statement : CreateTable) : Prop :=
  ∀ element ∈ statement.definition.children, element.plainKey = element.declaredKey

instance (statement : CreateTable) : Decidable statement.ComputesNoKey :=
  inferInstanceAs (Decidable (∀ element ∈ statement.definition.children, _ = _))

theorem CreateTable.plainKey_eq {statement : CreateTable} (plain : statement.ComputesNoKey) :
    statement.plainKey = statement.declaredKey :=
  List.flatMap_congr plain

namespace Extraction

/-! ## Columns -/

/-- An option of a column adds the names that it declares to the key and leaves the name of the
column. -/
theorem ColumnState.key_add (state : ColumnState) {child : Node}
    (noName : child.isIdentifier = false) :
    (state.add child).column.name = state.column.name ∧
      (state.add child).key = state.key.merge (child.inlineKey state.column.name) := by
  cases child with
  | identifier => cases noName
  | primaryKey children =>
    unfold ColumnState.add Node.inlineKey
    dsimp only
    cases listedColumns children <;> exact ⟨rfl, rfl⟩
  | _ => exact ⟨rfl, rfl⟩

theorem ColumnState.key_addAll (state : ColumnState) {children : List Node}
    (noNames : ∀ child ∈ children, child.isIdentifier = false) :
    (children.foldl ColumnState.add state).key =
      state.key.merge (children.flatMap (Node.inlineKey state.column.name)) := by
  induction children generalizing state with
  | nil => rfl
  | cons child children induction =>
    obtain ⟨noName, noNames⟩ := List.forall_mem_cons.mp noNames
    obtain ⟨sameName, key⟩ := state.key_add noName
    rw [List.foldl_cons, induction (state.add child) noNames, sameName, key, List.flatMap_cons,
      Key.merge_append]

/-- A column adds the names that it declares to the key. -/
theorem key_column {children : List Node} (parts : Node.AreColumnParts children) (sql : String)
    (key : Key) (diagnostics : Diagnostics) :
    (column children sql key diagnostics).key =
      key.merge (children.flatMap (Node.inlineKey (Node.declaredName children))) := by
  obtain ⟨name, text, type, options, rfl, shape⟩ := parts
  -- The name comes first, so every option adds a key under the final name of the column.
  have noNames : ∀ child ∈ type.toList.map Node.dataType ++ options,
      child.isIdentifier = false := by
    intro child member
    rcases List.mem_append.mp member with member | member
    · obtain ⟨specification, _, rfl⟩ := List.mem_map.mp member
      rfl
    · have isOption := shape child member
      cases child with
      | identifier => cases isOption
      | _ => rfl
  exact ColumnState.key_addAll _ noNames

/-! ## Tables -/

/-- An element adds the names that it declares to the key, if it is no computed column. -/
theorem primaryKey_addElement (state : Table × Diagnostics) {element : Node}
    (shape : element.IsElement) :
    (addElement state element).1.primaryKey = state.1.primaryKey.merge element.plainKey := by
  obtain ⟨table, diagnostics⟩ := state
  cases element with
  | column children sql => exact key_column shape sql table.primaryKey diagnostics
  | computedColumn | primaryKey | constraint | unknown => rfl
  | _ => cases shape

theorem primaryKey_table {statement : CreateTable} (shape : statement.HasElements)
    (diagnostics : Diagnostics) :
    (table statement diagnostics).1.primaryKey = Key.ofList statement.plainKey := by
  have run (elements : List Node) (elementShape : ∀ element ∈ elements, element.IsElement)
      (state : Table × Diagnostics) :
      (elements.foldl addElement state).1.primaryKey =
        state.1.primaryKey.merge (elements.flatMap Node.plainKey) := by
    induction elements generalizing state with
    | nil => rfl
    | cons element elements induction =>
      obtain ⟨firstShape, otherShapes⟩ := List.forall_mem_cons.mp elementShape
      rw [List.foldl_cons, induction otherShapes, primaryKey_addElement state firstShape,
        List.flatMap_cons, Key.merge_append]
  exact run statement.definition.children shape _

end Extraction

/-! ## Scripts -/

theorem CreateTable.primaryKey_of_process {statement : CreateTable} {path : String}
    {isTracing : Bool} {table : Table} (shape : statement.HasElements)
    (accepted : (statement.process path isTracing).result = .ok table) :
    table.primaryKey = Key.ofList statement.plainKey := by
  obtain ⟨rfl, _⟩ := eq_resolve_of_process accepted
  exact Extraction.primaryKey_table shape _

/-- The key of a table is made of the names that its statement declares beside the columns and with
columns that are not computed. Where no computed column declares a key, these are all declared names:
those listed in keys, and the name of every column with a key that lists none. -/
theorem primaryKey_of_readTables {source path : String} {options : ReadingOptions}
    {outcomes : List TableOutcome} (read : readTables source path options = .ok outcomes) :
    ∃ statements, Grammar.readScript source options.defaultSchema = .ok statements ∧
      List.Forall₂
        (fun statement outcome => ∀ table, outcome.result = .ok table →
          table.primaryKey = Key.ofList statement.plainKey ∧
          (statement.ComputesNoKey → table.primaryKey = Key.ofList statement.declaredKey))
        (statements.filterMap Statement.createTable?) outcomes := by
  obtain ⟨statements, script, rfl⟩ := Grammar.map_eq_ok.mp read
  refine ⟨statements, script, List.forall₂_map_right_iff.mpr (List.forall₂_same.mpr ?_)⟩
  intro statement member table accepted
  have shape : statement.HasElements := Grammar.hasElements_of_createTable? script statement member
  have key := CreateTable.primaryKey_of_process shape accepted
  exact ⟨key, fun plain => key.trans (congrArg Key.ofList (CreateTable.plainKey_eq plain))⟩

/-- Keys with a column, with a column and a list, and beside the columns. -/
theorem primaryKey_of_readTables_mixed :
    let source := "CREATE TABLE T (D AS (A), C INT PRIMARY KEY PRIMARY KEY (b, [E]), " ++
      "PRIMARY KEY (A, B))"
    ∃ statements statement outcome table,
      Grammar.readScript source "dbo" = .ok statements ∧
      statements.filterMap Statement.createTable? = [statement] ∧
      readTables source "t.sql" {} = .ok [outcome] ∧ outcome.result = .ok table ∧
      statement.declaredKey = ["C", "b", "E", "A", "B"] ∧
      table.primaryKey = Key.ofList ["C", "b", "E", "A", "B"] := by
  intro source
  have tables : (readTables source "t.sql" {}).toOption.map
      (·.map fun outcome => outcome.result.toOption.isSome) = some [true] := by
    decide +kernel
  have keys : (Grammar.readScript source "dbo").toOption.map
      (fun statements => (statements.filterMap Statement.createTable?).map fun statement =>
        (decide statement.ComputesNoKey, statement.declaredKey)) =
      some [(true, ["C", "b", "E", "A", "B"])] := by
    decide +kernel
  obtain ⟨outcomes, read, results⟩ := Grammar.exists_of_toOption_map tables
  obtain ⟨outcome, rfl, accepted⟩ := List.map_eq_singleton_iff.mp results
  obtain ⟨table, accepted⟩ := Grammar.exists_of_isSome accepted
  obtain ⟨statements, script, sameKeys⟩ := primaryKey_of_readTables read
  rw [script] at keys
  obtain ⟨statement, isOnly, declared⟩ := List.map_eq_singleton_iff.mp (Option.some.inj keys)
  obtain ⟨plain, declared⟩ := Prod.mk.inj declared
  rw [isOnly] at sameKeys
  obtain ⟨key, -⟩ := List.forall₂_cons.mp sameKeys
  refine ⟨statements, statement, outcome, table, script, isOnly, read, accepted, declared, ?_⟩
  rw [← declared]
  exact (key table accepted).2 (of_decide_eq_true plain)

/-- The key of a computed column is missing in its table. -/
theorem primaryKey_ne_declaredKey :
    let source := "CREATE TABLE T (A INT, B AS (A) PERSISTED PRIMARY KEY)"
    ∃ statements statement outcome table,
      Grammar.readScript source "dbo" = .ok statements ∧
      statements.filterMap Statement.createTable? = [statement] ∧
      readTables source "t.sql" {} = .ok [outcome] ∧ outcome.result = .ok table ∧
      statement.declaredKey = ["B"] ∧ table.primaryKey ≠ Key.ofList ["B"] := by
  intro source
  have tables : (readTables source "t.sql" {}).toOption.map
      (·.map fun outcome => outcome.result.toOption.map (·.primaryKey)) = some [some .empty] := by
    decide +kernel
  have keys : (Grammar.readScript source "dbo").toOption.map
      (fun statements => (statements.filterMap Statement.createTable?).map (·.declaredKey)) =
      some [["B"]] := by
    decide +kernel
  obtain ⟨outcomes, read, results⟩ := Grammar.exists_of_toOption_map tables
  obtain ⟨outcome, rfl, result⟩ := List.map_eq_singleton_iff.mp results
  obtain ⟨table, accepted, noKey⟩ := Grammar.exists_of_toOption_map result
  obtain ⟨statements, script, declared⟩ := Grammar.exists_of_toOption_map keys
  obtain ⟨statement, isOnly, declared⟩ := List.map_eq_singleton_iff.mp declared
  refine ⟨statements, statement, outcome, table, script, isOnly, read, accepted, declared, ?_⟩
  rw [noKey]
  decide +kernel

end SqlSchema
