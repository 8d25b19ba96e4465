import SqlSchema.Grammar.Expression
import SqlSchema.Grammar.Many

/-!
Constraints of columns and tables: keys with their columns and index options, references with their
actions, checks and defaults.
-/

namespace SqlSchema.Grammar

/-! ## Keys -/

/-- Leaves out `NOT FOR REPLICATION`. -/
def dropNotForReplication (tokens : List Token) : List Token :=
  if nextAreWords ["NOT", "FOR", "REPLICATION"] tokens then tokens.drop 3 else tokens

/-- The columns of a key whose `(` has been read, each with an optional direction, and the tokens
after the `)`. -/
def indexedColumns (tokens : List Token) : Except Refusal (List Node × List Token) :=
  match _ : name tokens with
  | .error refusal => .error refusal
  | .ok (column, rest) =>
    let after := if nextIsWordIn ["ASC", "DESC"] rest then rest.tail else rest
    let node : Node := .indexedColumn column (Token.textTo tokens after)
    if nextIs .comma after then
      match indexedColumns after.tail with
      | .error refusal => .error refusal
      | .ok (nodes, rest) => .ok (node :: nodes, rest)
    else
      match expectRightParen after with
      | .error refusal => .error refusal
      | .ok rest => .ok ([node], rest)
termination_by tokens.length
decreasing_by grind

/-- The value of a `WITH` that has no parentheses, as in `WITH FILLFACTOR = 80`. -/
def bareIndexOption (tokens : List Token) : Except Refusal (List Token) := do
  let (_, rest) ← name tokens
  let isAssigned := rest.head?.any fun token => token.kind == .operator && token.text == "="
  .ok (if isAssigned then rest.drop 2 else rest.drop 1)

/-- `WITH (...)`, `WITH name = value` or `ON filegroup` after a key. -/
def indexOption? : Step Node := fun tokens =>
  let node (rest : List Token) : Option (Node × List Token) :=
    some (.indexOption (Token.textTo tokens rest), rest)
  if nextIsWord "WITH" tokens then
    if nextIs .leftParen tokens.tail then do
      let rest ← skipGroup tokens.tail
      .ok (node rest)
    else do
      let rest ← bareIndexOption tokens.tail
      .ok (node rest)
  else if nextIsWord "ON" tokens then do
    let (_, rest) ← name tokens.tail
    let rest ← skipOptionalGroup rest
    .ok (node rest)
  else .ok none

/-- Leaves out the words that say how an index is stored. -/
def dropIndexKind (tokens : List Token) : List Token :=
  if nextIsWord "CLUSTERED" tokens then tokens.tail
  else if nextIsWord "NONCLUSTERED" tokens then dropWord "HASH" tokens.tail
  else tokens

@[grind →] theorem length_of_bareIndexOption {tokens rest : List Token}
    (found : bareIndexOption tokens = .ok rest) : rest.length < tokens.length := by
  simp only [bareIndexOption, bind, Except.bind] at found
  grind

theorem progresses_indexOption? : Step.Progresses indexOption? := by
  intro tokens rest node found
  simp only [indexOption?, bind, Except.bind] at found
  grind

/-- The options of a key. -/
def indexOptions (tokens : List Token) : Except Refusal (List Node × List Token) :=
  many indexOption? progresses_indexOption? tokens

/-- What follows `PRIMARY KEY` or `UNIQUE`: the columns and options of the key. -/
def keyTail (tokens : List Token) : Except Refusal (List Node × List Token) := do
  let tokens := dropIndexKind tokens
  let (columns, rest) ←
    if nextIs .leftParen tokens then indexedColumns tokens.tail else .ok ([], tokens)
  let (options, rest) ← indexOptions rest
  .ok (columns ++ options, rest)

/-! ## References -/

/-- What happens to a reference when its row goes or changes, after `ON DELETE` or `ON UPDATE`. -/
def referenceAction (tokens : List Token) : Except Refusal (List Token) :=
  if nextIsWord "NO" tokens then expectWord "ACTION" tokens.tail
  else if nextIsWord "SET" tokens then
    if nextIsWord "NULL" tokens.tail then .ok (tokens.drop 2)
    else expectWord "DEFAULT" tokens.tail
  else expectWord "CASCADE" tokens

/-- `ON DELETE ...`, `ON UPDATE ...` or `NOT FOR REPLICATION` after a reference. -/
def referenceOption? : Step Unit := fun tokens =>
  if nextAreWords ["ON", "DELETE"] tokens || nextAreWords ["ON", "UPDATE"] tokens then do
    let rest ← referenceAction (tokens.drop 2)
    .ok (some ((), rest))
  else if nextAreWords ["NOT", "FOR", "REPLICATION"] tokens then .ok (some ((), tokens.drop 3))
  else .ok none

@[grind →] theorem length_of_referenceAction {tokens rest : List Token}
    (found : referenceAction tokens = .ok rest) : rest.length < tokens.length := by
  unfold referenceAction at found
  grind

theorem progresses_referenceOption? : Step.Progresses referenceOption? := by
  intro tokens rest value found
  simp only [referenceOption?, bind, Except.bind] at found
  grind [nextAreWords]

/-- The tokens after the options of a reference. -/
def referenceOptions (tokens : List Token) : Except Refusal (List Token) := do
  let (_, rest) ← many referenceOption? progresses_referenceOption? tokens
  .ok rest

/-- What follows `REFERENCES`: the table, its columns and the options of the reference. -/
def referencesTail (tokens : List Token) : Except Refusal (List Token) := do
  let (_, rest) ← name tokens
  let (_, rest) ← dottedParts rest
  let rest ← skipOptionalGroup rest
  referenceOptions rest

/-! ## Constraints -/

/-- Words that begin the body of a constraint. -/
def constraintWords : List String :=
  ["PRIMARY", "DEFAULT", "UNIQUE", "FOREIGN", "REFERENCES", "CHECK"]

/-- The body of a constraint that begins at `start` and whose optional name has been read. -/
def constraintBody (start : List Token) (label : Option Node) (tokens : List Token) :
    Except Refusal (Node × List Token) :=
  let node (kind : ConstraintKind) (rest : List Token) : Node × List Token :=
    (.constraint kind (Token.textTo start rest), rest)
  if nextIsWord "PRIMARY" tokens then do
    let rest ← expectWord "KEY" tokens.tail
    let (children, rest) ← keyTail rest
    .ok (.primaryKey (label.toList ++ children) (Token.textTo start rest), rest)
  else if nextIsWord "DEFAULT" tokens then do
    let (_, rest) ← expression tokens.tail
    let rest := if nextAreWords ["WITH", "VALUES"] rest then rest.drop 2 else rest
    .ok (node .default rest)
  else if nextIsWord "UNIQUE" tokens then do
    let (_, rest) ← keyTail tokens.tail
    .ok (node .unique rest)
  else if nextIsWord "FOREIGN" tokens then do
    let rest ← expectWord "KEY" tokens.tail
    let rest ← skipOptionalGroup rest
    let rest ← expectWord "REFERENCES" rest
    let rest ← referencesTail rest
    .ok (node .foreignKey rest)
  else if nextIsWord "REFERENCES" tokens then do
    let rest ← referencesTail tokens.tail
    .ok (node .foreignKey rest)
  else if nextIsWord "CHECK" tokens then do
    let rest ← skipGroup (dropNotForReplication tokens.tail)
    .ok (node .check rest)
  else refuse .constraint tokens

/-- A name as a node. -/
def identifier (tokens : List Token) : Except Refusal (Node × List Token) := do
  let (value, rest) ← name tokens
  .ok (.identifier value (Token.textTo tokens rest), rest)

/-- A constraint with its optional name. -/
def constraint (tokens : List Token) : Except Refusal (Node × List Token) :=
  if nextIsWord "CONSTRAINT" tokens then do
    let (label, rest) ← identifier tokens.tail
    constraintBody tokens (some label) rest
  else constraintBody tokens none tokens

/-! ## Progress -/

@[grind →] theorem length_of_indexedColumns {tokens rest : List Token} {nodes : List Node}
    (found : indexedColumns tokens = .ok (nodes, rest)) : rest.length < tokens.length := by
  fun_induction indexedColumns tokens generalizing nodes <;> grind

@[grind →] theorem length_of_indexOptions {tokens rest : List Token} {nodes : List Node}
    (found : indexOptions tokens = .ok (nodes, rest)) : rest.length ≤ tokens.length :=
  length_of_many found

@[grind →] theorem length_of_referenceOptions {tokens rest : List Token}
    (found : referenceOptions tokens = .ok rest) : rest.length ≤ tokens.length := by
  simp only [referenceOptions, bind, Except.bind] at found
  split at found
  · simp at found
  · rename_i result equation
    simp only [Except.ok.injEq] at found
    subst found
    exact length_of_many equation

theorem length_dropIndexKind_le (tokens : List Token) :
    (dropIndexKind tokens).length ≤ tokens.length := by
  unfold dropIndexKind
  grind [length_dropWord_le]

theorem length_dropNotForReplication_le (tokens : List Token) :
    (dropNotForReplication tokens).length ≤ tokens.length := by
  unfold dropNotForReplication
  grind

@[grind →] theorem length_of_keyTail {tokens rest : List Token} {nodes : List Node}
    (found : keyTail tokens = .ok (nodes, rest)) : rest.length ≤ tokens.length := by
  have notLonger := length_dropIndexKind_le tokens
  simp only [keyTail, bind, Except.bind] at found
  grind

@[grind →] theorem length_of_referencesTail {tokens rest : List Token}
    (found : referencesTail tokens = .ok rest) : rest.length < tokens.length := by
  simp only [referencesTail, bind, Except.bind] at found
  grind

@[grind →] theorem length_of_constraintBody {start tokens rest : List Token}
    {label : Option Node} {node : Node}
    (found : constraintBody start label tokens = .ok (node, rest)) :
    rest.length < tokens.length := by
  have notLonger := length_dropNotForReplication_le tokens.tail
  simp only [constraintBody, bind, Except.bind] at found
  iterate 4 (split at found; · grind)
  grind [refuse]

@[grind →] theorem length_of_identifier {tokens rest : List Token} {node : Node}
    (found : identifier tokens = .ok (node, rest)) : rest.length < tokens.length := by
  simp only [identifier, bind, Except.bind] at found
  grind

@[grind →] theorem length_of_constraint {tokens rest : List Token} {node : Node}
    (found : constraint tokens = .ok (node, rest)) : rest.length < tokens.length := by
  simp only [constraint, bind, Except.bind] at found
  grind

end SqlSchema.Grammar
