import SqlSchema.Grammar.Constraint

/-!
Columns: a name, then either a type or `AS` and an expression, then any number of options. An option
that no rule knows is kept as unknown syntax.
-/

namespace SqlSchema.Grammar

/-- One option of a column. -/
def columnOption (tokens : List Token) : Except Refusal (Node × List Token) :=
  let node (make : String → Node) (rest : List Token) : Node × List Token :=
    (make (Token.textTo tokens rest), rest)
  if nextIsWord "IDENTITY" tokens then do
    let rest ← skipOptionalGroup tokens.tail
    .ok (node .identity (dropNotForReplication rest))
  else if nextIsWord "NULL" tokens then .ok (node (.constraint .null) tokens.tail)
  else if nextAreWords ["NOT", "NULL"] tokens then
    .ok (node (.constraint .notNull) (tokens.drop 2))
  else if nextIsWord "ROWGUIDCOL" tokens then .ok (node (.constraint .rowGuid) tokens.tail)
  else if nextIsWord "COLLATE" tokens then do
    let (_, rest) ← name tokens.tail
    .ok (node .collation rest)
  else if nextIsWord "CONSTRAINT" tokens || nextIsWordIn constraintWords tokens then
    constraint tokens
  else do
    let rest ← unknownOption tokens
    .ok (node (.unknown "ColumnOption") rest)

/-- The next option of a column, unless the element ends here. -/
def columnOption? : Step Node := fun tokens =>
  if atElementEnd tokens then .ok none else (columnOption tokens).map some

theorem progresses_columnOption? : Step.Progresses columnOption? := by
  intro tokens rest node found
  have notLonger := length_dropNotForReplication_le
  cases tokens with
  | nil => simp [columnOption?, atElementEnd] at found
  | cons token tail =>
    simp only [columnOption?, columnOption, Except.map, bind, Except.bind] at found
    grind

/-- The options of a column up to the end of its element. -/
def columnOptions (tokens : List Token) : Except Refusal (List Node × List Token) :=
  many columnOption? progresses_columnOption? tokens

/-- The optional type of a column. -/
def columnType (tokens : List Token) : Except Refusal (List Node × List Token) :=
  if atElementEnd tokens || atColumnOption tokens then .ok ([], tokens)
  else do
    let (type, rest) ← dataType tokens
    .ok ([.dataType type], rest)

/-- A column of a table. -/
def column (tokens : List Token) : Except Refusal (Node × List Token) := do
  let (label, rest) ← identifier tokens
  if nextIsWord "AS" rest then
    let (value, rest) ← expression rest.tail
    let (options, rest) ← columnOptions (dropWord "PERSISTED" rest)
    .ok (.computedColumn (label :: value :: options) (Token.textTo tokens rest), rest)
  else
    let (type, rest) ← columnType rest
    let (options, rest) ← columnOptions rest
    .ok (.column (label :: type ++ options) (Token.textTo tokens rest), rest)

/-! ## Progress -/

@[grind →] theorem length_of_columnOptions {tokens rest : List Token} {nodes : List Node}
    (found : columnOptions tokens = .ok (nodes, rest)) : rest.length ≤ tokens.length :=
  length_of_many found

@[grind →] theorem length_of_columnType {tokens rest : List Token} {nodes : List Node}
    (found : columnType tokens = .ok (nodes, rest)) : rest.length ≤ tokens.length := by
  simp only [columnType, bind, Except.bind] at found
  grind

@[grind →] theorem length_of_column {tokens rest : List Token} {node : Node}
    (found : column tokens = .ok (node, rest)) : rest.length < tokens.length := by
  have notLonger := length_dropWord_le
  simp only [column, bind, Except.bind] at found
  grind

end SqlSchema.Grammar
