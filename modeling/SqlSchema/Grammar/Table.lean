import SqlSchema.Grammar.Column

/-!
The `CREATE TABLE` statement: the name of the table, its elements in parentheses, and the options
after them.
-/

namespace SqlSchema.Grammar

/-! ## Elements -/

/-- An element of the class `typeName` that is kept as text. -/
def unknownElement (typeName : String) (tokens : List Token) :
    Except Refusal (Node × List Token) := do
  let rest ← skipElement 0 tokens
  .ok (.unknown typeName (Token.textTo tokens rest), rest)

/-- One element of a table. What follows a constraint in its element is a node of its own. -/
def tableElement (tokens : List Token) : Except Refusal (List Node × List Token) :=
  if tokens.isEmpty then refuse .more []
  else if nextIsWordIn ["CONSTRAINT", "PRIMARY", "UNIQUE", "FOREIGN", "CHECK"] tokens then do
    let (node, rest) ← constraint tokens
    if atElementEnd rest then .ok ([node], rest)
    else
      let (option, rest) ← unknownElement "ConstraintOption" rest
      .ok ([node, option], rest)
  else do
    let (node, rest) ←
      if nextIsWord "INDEX" tokens then unknownElement "IndexDefinition" tokens
      else if nextAreWords ["PERIOD", "FOR"] tokens then unknownElement "PeriodDefinition" tokens
      else column tokens
    .ok ([node], rest)

@[grind →] theorem length_of_unknownElement {typeName : String} {tokens rest : List Token}
    {node : Node} (found : unknownElement typeName tokens = .ok (node, rest)) :
    rest.length ≤ tokens.length := by
  simp only [unknownElement, bind, Except.bind] at found
  grind

@[grind →] theorem length_of_tableElement {tokens rest : List Token} {nodes : List Node}
    (found : tableElement tokens = .ok (nodes, rest)) : rest.length ≤ tokens.length := by
  simp only [tableElement, bind, Except.bind] at found
  grind [refuse]

/-- The elements of a table with commas between them; a comma may also stand after the last. -/
def tableElements (tokens : List Token) : Except Refusal (List Node × List Token) :=
  match _ : tableElement tokens with
  | .error refusal => .error refusal
  | .ok (nodes, rest) =>
    if nextIs .comma rest then
      if nextIs .rightParen rest.tail then .ok (nodes, rest.tail)
      else
        match tableElements rest.tail with
        | .error refusal => .error refusal
        | .ok (others, rest) => .ok (nodes ++ others, rest)
    else .ok (nodes, rest)
termination_by tokens.length
decreasing_by grind

/-- The elements of a table with their parentheses. -/
def tableDefinition (tokens : List Token) : Except Refusal (TableDefinition × List Token) :=
  if nextIs .leftParen tokens then do
    let (children, rest) ← tableElements tokens.tail
    let rest ← expectRightParen rest
    .ok ({ children, sql := Token.textTo tokens rest }, rest)
  else refuse .leftParen tokens

/-! ## Options -/

/-- `ON filegroup`, `TEXTIMAGE_ON filegroup`, `WITH (...)` or `AS FILETABLE` after the elements. -/
def tableOption? : Step Unit := fun tokens =>
  if nextIsWordIn ["ON", "TEXTIMAGE_ON", "FILESTREAM_ON"] tokens then do
    let rest := tokens.tail
    let rest := if nextIsName rest || nextIs .string rest then rest.tail else rest
    let rest ← skipOptionalGroup rest
    .ok (some ((), rest))
  else if nextIsWord "WITH" tokens && nextIs .leftParen tokens.tail then do
    let rest ← skipGroup tokens.tail
    .ok (some ((), rest))
  else if nextIsWord "AS" tokens && nextIsWordIn ["FILETABLE", "NODE", "EDGE"] tokens.tail then
    .ok (some ((), tokens.drop 2))
  else .ok none

theorem progresses_tableOption? : Step.Progresses tableOption? := by
  intro tokens rest value found
  cases tokens with
  | nil => simp [tableOption?, nextIsWordIn, nextIsWord] at found
  | cons token tail =>
    simp only [tableOption?, bind, Except.bind] at found
    grind

/-- The tokens after the options of a table. -/
def tableOptions (tokens : List Token) : Except Refusal (List Token) := do
  let (_, rest) ← many tableOption? progresses_tableOption? tokens
  .ok rest

/-! ## Names -/

/-- Further parts of a table name, each after a dot. A part is empty where two dots meet. -/
def tableNameParts : List Token → Except Refusal (List String × List Token)
  | [] => .ok ([], [])
  | dot :: rest =>
    if dot.kind = .dot then
      match rest with
      | [] => refuse .name []
      | part :: tail =>
        if part.kind = .dot then
          match tableNameParts (part :: tail) with
          | .error refusal => .error refusal
          | .ok (parts, rest) => .ok ("" :: parts, rest)
        else if part.isName then
          match tableNameParts tail with
          | .error refusal => .error refusal
          | .ok (parts, rest) => .ok (part.name :: parts, rest)
        else refuse .name (part :: tail)
    else .ok ([], dot :: rest)

/-- The schema and the name of a table. A schema that is missing or empty is `defaultSchema`. -/
def tableName (defaultSchema : String) (tokens : List Token) :
    Except Refusal ((String × String) × List Token) := do
  let (first, rest) ← name tokens
  let (parts, rest) ← tableNameParts rest
  let names := first :: parts
  if names.length ≤ 4 then
    let schema := names.dropLast.getLast?.filter fun schema => !schema.isEmpty
    .ok ((schema.getD defaultSchema, names.getLast (List.cons_ne_nil first parts)), rest)
  else refuse .shorterName rest

/-- A `CREATE TABLE` statement, which begins with these two words. -/
def createTable (defaultSchema : String) (tokens : List Token) :
    Except Refusal (CreateTable × List Token) := do
  let ((schema, name), rest) ← tableName defaultSchema (tokens.drop 2)
  let (definition, rest) ← tableDefinition rest
  let rest ← tableOptions rest
  .ok ({ schema, name, sql := Token.textTo tokens rest, definition }, rest)

/-! ## Progress -/

@[grind →] theorem length_of_tableElements {tokens rest : List Token} {nodes : List Node}
    (found : tableElements tokens = .ok (nodes, rest)) : rest.length ≤ tokens.length := by
  fun_induction tableElements tokens generalizing nodes <;> grind

@[grind →] theorem length_of_tableDefinition {tokens rest : List Token}
    {definition : TableDefinition} (found : tableDefinition tokens = .ok (definition, rest)) :
    rest.length < tokens.length := by
  simp only [tableDefinition, bind, Except.bind] at found
  grind [refuse]

@[grind →] theorem length_of_tableOptions {tokens rest : List Token}
    (found : tableOptions tokens = .ok rest) : rest.length ≤ tokens.length := by
  simp only [tableOptions, bind, Except.bind] at found
  split at found
  · simp at found
  · rename_i result equation
    simp only [Except.ok.injEq] at found
    subst found
    exact length_of_many equation

@[grind →] theorem length_of_tableNameParts {tokens rest : List Token} {parts : List String}
    (found : tableNameParts tokens = .ok (parts, rest)) : rest.length ≤ tokens.length := by
  fun_induction tableNameParts tokens generalizing parts <;> grind [refuse]

@[grind →] theorem length_of_tableName {defaultSchema : String} {tokens rest : List Token}
    {names : String × String} (found : tableName defaultSchema tokens = .ok (names, rest)) :
    rest.length < tokens.length := by
  simp only [tableName, bind, Except.bind] at found
  grind [refuse]

@[grind →] theorem length_of_createTable {defaultSchema : String} {tokens rest : List Token}
    {statement : CreateTable} (found : createTable defaultSchema tokens = .ok (statement, rest)) :
    rest.length < tokens.length := by
  simp only [createTable, bind, Except.bind] at found
  grind

end SqlSchema.Grammar
