import SqlSchema.Proofs.Reading

/-!
The shape of trees that are read from a script. A column begins with its name, at most a type or an
expression follows, and everything after that is an option.
-/

namespace SqlSchema

namespace Node

/-- Whether a node can be an option of a column: neither a name nor a type nor an expression. A key
has a node of its own and is never a constraint of another kind. -/
def IsColumnOption : Node → Prop
  | .identity _ | .collation _ | .primaryKey .. | .unknown .. => True
  | .constraint kind _ => kind ≠ .primaryKey
  | _ => False

/-- The children of a column: its name, its optional type and its options. -/
def AreColumnParts (children : List Node) : Prop :=
  ∃ name text, ∃ type : Option DataType, ∃ options,
    children = .identifier name text :: (type.toList.map .dataType ++ options) ∧
      ∀ option ∈ options, option.IsColumnOption

/-- The children of a computed column: its name, its expression and its options. -/
def AreComputedParts (children : List Node) : Prop :=
  ∃ name text value options, children = .identifier name text :: value :: options ∧
    ∀ option ∈ options, option.IsColumnOption

/-- Whether a node can be an element of a table. -/
def IsElement : Node → Prop
  | .column children _ => AreColumnParts children
  | .computedColumn children _ => AreComputedParts children
  | .primaryKey .. | .constraint .. | .unknown .. => True
  | _ => False

end Node

namespace Grammar

/-! ## Options -/

theorem constraintBody_shape {start tokens rest : List Token} {label : Option Node} {node : Node}
    (found : constraintBody start label tokens = .ok (node, rest)) :
    (∃ children sql, node = .primaryKey children sql) ∨
      ∃ kind sql, node = .constraint kind sql ∧ kind ≠ .primaryKey := by
  unfold constraintBody at found
  dsimp only at found
  split at found
  · obtain ⟨_, _, found⟩ := bind_eq_ok.mp found
    obtain ⟨_, _, found⟩ := bind_eq_ok.mp found
    cases found
    exact .inl ⟨_, _, rfl⟩
  · right
    split at found
    · obtain ⟨_, _, found⟩ := bind_eq_ok.mp found
      cases found
      exact ⟨_, _, rfl, nofun⟩
    split at found
    · obtain ⟨_, _, found⟩ := bind_eq_ok.mp found
      cases found
      exact ⟨_, _, rfl, nofun⟩
    split at found
    · obtain ⟨_, _, found⟩ := bind_eq_ok.mp found
      obtain ⟨_, _, found⟩ := bind_eq_ok.mp found
      obtain ⟨_, _, found⟩ := bind_eq_ok.mp found
      obtain ⟨_, _, found⟩ := bind_eq_ok.mp found
      cases found
      exact ⟨_, _, rfl, nofun⟩
    split at found
    · obtain ⟨_, _, found⟩ := bind_eq_ok.mp found
      cases found
      exact ⟨_, _, rfl, nofun⟩
    split at found
    · obtain ⟨_, _, found⟩ := bind_eq_ok.mp found
      cases found
      exact ⟨_, _, rfl, nofun⟩
    · cases found

theorem constraint_shape {tokens rest : List Token} {node : Node}
    (found : constraint tokens = .ok (node, rest)) :
    (∃ children sql, node = .primaryKey children sql) ∨
      ∃ kind sql, node = .constraint kind sql ∧ kind ≠ .primaryKey := by
  unfold constraint at found
  split at found
  · obtain ⟨_, _, found⟩ := bind_eq_ok.mp found
    exact constraintBody_shape found
  · exact constraintBody_shape found

theorem isColumnOption_of_columnOption {tokens rest : List Token} {node : Node}
    (found : columnOption tokens = .ok (node, rest)) : node.IsColumnOption := by
  unfold columnOption at found
  dsimp only at found
  split at found
  · obtain ⟨_, _, found⟩ := bind_eq_ok.mp found
    cases found
    trivial
  split at found
  · cases found
    exact nofun
  split at found
  · cases found
    exact nofun
  split at found
  · cases found
    exact nofun
  split at found
  · obtain ⟨_, _, found⟩ := bind_eq_ok.mp found
    cases found
    trivial
  split at found
  · rcases constraint_shape found with ⟨children, sql, rfl⟩ | ⟨kind, sql, rfl, notKey⟩
    · trivial
    · exact notKey
  · obtain ⟨_, _, found⟩ := bind_eq_ok.mp found
    cases found
    trivial

theorem isColumnOption_of_columnOptions {tokens rest : List Token} {options : List Node}
    (found : columnOptions tokens = .ok (options, rest)) :
    ∀ option ∈ options, option.IsColumnOption := by
  have one (tokens : List Token) (option : Node) (rest : List Token)
      (read : columnOption? tokens = .ok (some (option, rest))) : option.IsColumnOption := by
    unfold columnOption? at read
    split at read
    · cases read
    · obtain ⟨_, read, equal⟩ := map_eq_ok.mp read
      cases equal
      exact isColumnOption_of_columnOption read
  exact forall_of_many one found

/-! ## Elements -/

theorem identifier_shape {tokens rest : List Token} {node : Node}
    (found : identifier tokens = .ok (node, rest)) : ∃ name text, node = .identifier name text := by
  obtain ⟨_, _, found⟩ := bind_eq_ok.mp found
  cases found
  exact ⟨_, _, rfl⟩

theorem columnType_shape {tokens rest : List Token} {nodes : List Node}
    (found : columnType tokens = .ok (nodes, rest)) :
    ∃ type : Option DataType, nodes = type.toList.map .dataType := by
  unfold columnType at found
  split at found
  · cases found
    exact ⟨none, rfl⟩
  · obtain ⟨⟨type, _⟩, _, found⟩ := bind_eq_ok.mp found
    cases found
    exact ⟨some type, rfl⟩

theorem isElement_of_column {tokens rest : List Token} {node : Node}
    (found : column tokens = .ok (node, rest)) : node.IsElement := by
  obtain ⟨⟨label, afterLabel⟩, label_read, found⟩ := bind_eq_ok.mp found
  obtain ⟨name, text, rfl⟩ := identifier_shape label_read
  dsimp only at found
  split at found
  · obtain ⟨⟨value, _⟩, _, found⟩ := bind_eq_ok.mp found
    obtain ⟨⟨options, _⟩, options_read, found⟩ := bind_eq_ok.mp found
    cases found
    exact ⟨name, text, value, options, rfl, isColumnOption_of_columnOptions options_read⟩
  · obtain ⟨⟨types, _⟩, type_read, found⟩ := bind_eq_ok.mp found
    obtain ⟨⟨options, _⟩, options_read, found⟩ := bind_eq_ok.mp found
    obtain ⟨type, rfl⟩ := columnType_shape type_read
    cases found
    exact ⟨name, text, type, options, rfl, isColumnOption_of_columnOptions options_read⟩

theorem unknownElement_shape {typeName : String} {tokens rest : List Token} {node : Node}
    (found : unknownElement typeName tokens = .ok (node, rest)) : node.IsElement := by
  obtain ⟨_, _, found⟩ := bind_eq_ok.mp found
  cases found
  trivial

theorem isElement_of_tableElement {tokens rest : List Token} {nodes : List Node}
    (found : tableElement tokens = .ok (nodes, rest)) : ∀ node ∈ nodes, node.IsElement := by
  unfold tableElement at found
  split at found
  · cases found
  split at found
  · obtain ⟨⟨node, afterNode⟩, node_read, found⟩ := bind_eq_ok.mp found
    have isElement : node.IsElement := by
      rcases constraint_shape node_read with ⟨children, sql, rfl⟩ | ⟨kind, sql, rfl, _⟩ <;> trivial
    dsimp only at found
    split at found
    · cases found
      simpa using isElement
    · obtain ⟨⟨option, _⟩, option_read, found⟩ := bind_eq_ok.mp found
      cases found
      simpa using ⟨isElement, unknownElement_shape option_read⟩
  dsimp only at found
  split at found
  · obtain ⟨⟨node, _⟩, node_read, found⟩ := bind_eq_ok.mp found
    cases found
    simpa using unknownElement_shape node_read
  split at found
  · obtain ⟨⟨node, _⟩, node_read, found⟩ := bind_eq_ok.mp found
    cases found
    simpa using unknownElement_shape node_read
  · obtain ⟨⟨node, _⟩, node_read, found⟩ := bind_eq_ok.mp found
    cases found
    simpa using isElement_of_column node_read

theorem isElement_of_tableElements {tokens rest : List Token} {nodes : List Node}
    (found : tableElements tokens = .ok (nodes, rest)) : ∀ node ∈ nodes, node.IsElement := by
  fun_induction tableElements tokens generalizing nodes rest with
  | case1 => cases found
  | case2 tokens first next element =>
    cases found
    exact isElement_of_tableElement element
  | case3 => cases found
  | case4 tokens first next element _ _ others rest' equation induction =>
    cases found
    intro node member
    rcases List.mem_append.mp member with member | member
    · exact isElement_of_tableElement element node member
    · exact induction equation node member
  | case5 tokens first next element =>
    cases found
    exact isElement_of_tableElement element

/-! ## Statements -/

end Grammar

/-- Whether every element of a statement has the shape of an element. -/
def CreateTable.HasElements (statement : CreateTable) : Prop :=
  ∀ node ∈ statement.definition.children, node.IsElement

namespace Grammar

theorem hasElements_of_createTable {defaultSchema : String} {tokens rest : List Token}
    {statement : CreateTable} (found : createTable defaultSchema tokens = .ok (statement, rest)) :
    statement.HasElements := by
  obtain ⟨⟨⟨schema, name⟩, afterName⟩, _, found⟩ := bind_eq_ok.mp found
  obtain ⟨⟨definition, afterDefinition⟩, definition_read, found⟩ := bind_eq_ok.mp found
  obtain ⟨_, _, found⟩ := bind_eq_ok.mp found
  cases found
  unfold tableDefinition at definition_read
  split at definition_read
  · obtain ⟨⟨children, _⟩, elements_read, definition_read⟩ := bind_eq_ok.mp definition_read
    obtain ⟨_, _, definition_read⟩ := bind_eq_ok.mp definition_read
    cases definition_read
    exact isElement_of_tableElements elements_read
  · cases definition_read

theorem hasElements_of_statements {defaultSchema : String} {tokens : List Token}
    {found : List Statement} (read : statements defaultSchema tokens = .ok found) :
    ∀ statement, .createTable statement ∈ found → statement.HasElements := by
  fun_induction statements defaultSchema tokens generalizing found with
  | case1 => cases read; simp
  | case2 token rest isSemicolon induction => exact induction read
  | case3 token rest _ _ induction => exact induction read
  | case4 => cases read
  | case5 token rest _ _ _ first afterFirst first_read induction =>
    obtain ⟨others, others_read, rfl⟩ := map_eq_ok.mp read
    intro statement member
    rcases List.mem_cons.mp member with equal | member
    · cases equal
      exact hasElements_of_createTable first_read
    · exact induction others_read statement member
  | case6 token rest _ _ _ after =>
    rename_i induction
    obtain ⟨others, others_read, rfl⟩ := map_eq_ok.mp read
    intro statement member
    rcases List.mem_cons.mp member with equal | member
    · cases equal
    · exact induction others_read statement member

theorem hasElements_of_readScript {source defaultSchema : String} {found : List Statement}
    (read : readScript source defaultSchema = .ok found) :
    ∀ statement, .createTable statement ∈ found → statement.HasElements := by
  obtain ⟨tokens, _, read⟩ := bind_eq_ok.mp read
  exact hasElements_of_statements (mapError_eq_ok.mp read)

end Grammar

end SqlSchema
