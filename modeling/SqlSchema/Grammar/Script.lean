import SqlSchema.Grammar.Table
import SqlSchema.Token.Scan

/-!
Scripts: `CREATE TABLE` statements are read, all others are kept as text. A line that begins with
`GO` ends a batch and with it any statement that is passed over.
-/

namespace SqlSchema.Grammar

/-- The statements that own the rest of their batch. -/
def moduleWords : List String := ["PROCEDURE", "PROC", "FUNCTION", "TRIGGER", "VIEW"]

/-- Whether a module definition begins here: `CREATE` or `ALTER`, an optional `OR ALTER`, and the
kind of module. -/
def atModule (tokens : List Token) : Bool :=
  nextIsWordIn ["CREATE", "ALTER"] tokens &&
    nextIsWordIn moduleWords
      (if nextAreWords ["OR", "ALTER"] tokens.tail then tokens.drop 3 else tokens.tail)

/-- The tokens from the end of a statement that is passed over, with `depth` groups open. It ends at
a semicolon, at the end of its batch or before the next `CREATE`. -/
def skipStatement (depth : Nat) : List Token → List Token
  | [] => []
  | token :: rest =>
    if depth = 0 && (token.kind == .semicolon || token.endsBatch || token.isWord "CREATE") then
      token :: rest
    else
      match token.kind with
      | .leftParen => skipStatement (depth + 1) rest
      | .rightParen => skipStatement (depth - 1) rest
      | _ => skipStatement depth rest

/-- The tokens after the statement that begins with `first`. A module runs to the end of its batch;
of any other statement the first token is passed over whatever it is. -/
def afterStatement (first : Token) (rest : List Token) : List Token :=
  if atModule (first :: rest) then rest.dropWhile (!·.endsBatch) else skipStatement 0 rest

/-- Leaves out the count after a `GO`, an integer on the same line. -/
def dropBatchCount : List Token → List Token
  | [] => []
  | token :: rest =>
    if token.kind = .integer ∧ token.opensLine = false then rest else token :: rest

theorem length_skipStatement_le (depth : Nat) (tokens : List Token) :
    (skipStatement depth tokens).length ≤ tokens.length := by
  fun_induction skipStatement depth tokens <;> grind

theorem length_afterStatement_le (first : Token) (rest : List Token) :
    (afterStatement first rest).length ≤ rest.length := by
  unfold afterStatement
  split
  · exact (List.dropWhile_suffix _).length_le
  · exact length_skipStatement_le 0 rest

theorem length_dropBatchCount_le (tokens : List Token) :
    (dropBatchCount tokens).length ≤ tokens.length := by
  cases tokens <;> grind [dropBatchCount]

/-- The statements of a script. -/
def statements (defaultSchema : String) (tokens : List Token) :
    Except Refusal (List Statement) :=
  match tokens with
  | [] => .ok []
  | token :: rest =>
    if token.kind = .semicolon then statements defaultSchema rest
    else if token.endsBatch then statements defaultSchema (dropBatchCount rest)
    else if nextAreWords ["CREATE", "TABLE"] (token :: rest) then
      match _ : createTable defaultSchema (token :: rest) with
      | .error refusal => .error refusal
      | .ok (statement, rest) =>
        (statements defaultSchema rest).map (.createTable statement :: ·)
    else
      let after := afterStatement token rest
      (statements defaultSchema after).map (.other (Token.textTo (token :: rest) after) :: ·)
termination_by tokens.length
decreasing_by all_goals grind [length_afterStatement_le, length_dropBatchCount_le]

/-- The statements of a list of tokens; the line of an error at the end is that of the last
token. -/
def readTokens (defaultSchema : String) (tokens : List Token) :
    Except SyntaxError (List Statement) :=
  (statements defaultSchema tokens).mapError fun refusal =>
    refusal.toError ((tokens.getLast?.map Token.line).getD 1)

/-- The statements of a script. A table without a schema gets `defaultSchema`. -/
def readScript (source defaultSchema : String) : Except SyntaxError (List Statement) :=
  Token.scan source >>= readTokens defaultSchema

end SqlSchema.Grammar
