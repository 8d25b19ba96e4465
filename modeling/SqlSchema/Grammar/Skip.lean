import SqlSchema.Grammar.Basic

/-!
Syntax that is passed over unread: parenthesised groups, unknown elements and options, operator
chains. Each function walks the tokens once with a count of the parentheses that are open.
-/

namespace SqlSchema.Grammar

/-- The tokens after the `)` that closes a group whose `(` has been read. `depth` counts the groups
opened inside and not yet closed. -/
def closeGroup (depth : Nat) : List Token → Except Refusal (List Token)
  | [] => refuse .more []
  | token :: rest =>
    match token.kind, depth with
    | .leftParen, depth => closeGroup (depth + 1) rest
    | .rightParen, 0 => .ok rest
    | .rightParen, depth + 1 => closeGroup depth rest
    | _, depth => closeGroup depth rest

/-- The tokens after a parenthesised group. -/
def skipGroup (tokens : List Token) : Except Refusal (List Token) :=
  if nextIs .leftParen tokens then closeGroup 0 tokens.tail else refuse .leftParen tokens

/-- The tokens after a parenthesised group, if there is one. -/
def skipOptionalGroup (tokens : List Token) : Except Refusal (List Token) :=
  if nextIs .leftParen tokens then skipGroup tokens else .ok tokens

/-- The tokens from the comma or `)` that ends an element, with `depth` groups open. -/
def skipElement (depth : Nat) : List Token → Except Refusal (List Token)
  | [] => if depth = 0 then .ok [] else refuse .more []
  | token :: rest =>
    match token.kind, depth with
    | .comma, 0 => .ok (token :: rest)
    | .rightParen, 0 => .ok (token :: rest)
    | .leftParen, depth => skipElement (depth + 1) rest
    | .rightParen, depth + 1 => skipElement depth rest
    | _, depth => skipElement depth rest

/-! ## Column options -/

/-- Words that begin a column option. -/
def optionWords : List String :=
  ["IDENTITY", "NULL", "ROWGUIDCOL", "COLLATE", "CONSTRAINT", "DEFAULT", "PRIMARY", "UNIQUE",
    "FOREIGN", "REFERENCES", "CHECK"]

/-- Whether a column option begins here. -/
def atColumnOption (tokens : List Token) : Bool :=
  nextIsWordIn optionWords tokens || nextAreWords ["NOT", "NULL"] tokens

/-- The tokens from the next column option or the end of the element, with `depth` groups open. -/
def skipUnknownOption (depth : Nat) : List Token → Except Refusal (List Token)
  | [] => if depth = 0 then .ok [] else refuse .more []
  | token :: rest =>
    if depth = 0 && (atElementEnd (token :: rest) || atColumnOption (token :: rest)) then
      .ok (token :: rest)
    else
      match token.kind with
      | .leftParen => skipUnknownOption (depth + 1) rest
      | .rightParen => skipUnknownOption (depth - 1) rest
      | _ => skipUnknownOption depth rest

/-- The tokens after an unknown option, whose first token is passed over whatever it is. -/
def unknownOption : List Token → Except Refusal (List Token)
  | [] => .ok []
  | token :: rest =>
    if token.kind = .leftParen then skipUnknownOption 1 rest else skipUnknownOption 0 rest

/-! ## Operator chains -/

/-- Words that end an operator chain. -/
def chainStopWords : List String :=
  ["WHEN", "THEN", "ELSE", "END", "PERSISTED", "CONSTRAINT", "PRIMARY", "UNIQUE", "CHECK",
    "FOREIGN", "REFERENCES", "DEFAULT", "COLLATE", "ROWGUIDCOL", "IDENTITY", "WITH", "CREATE"]

/-- Whether `NULL` after this token belongs to the expression (`IS NULL`, `= NULL`) and is not an
option of the column. -/
def continuesIntoNull (token : Token) : Bool :=
  token.kind == .operator || token.kind == .leftParen || token.kind == .comma
    || token.isWordIn ["IS", "NOT", "AND", "OR", "IN", "LIKE", "THEN", "ELSE"]

/-- Whether an operator chain ends at its outermost level before `token`. `before` is the token
before it and `rest` what follows it. -/
def chainEndsAt (before token : Token) (rest : List Token) : Bool :=
  token.kind == .comma || token.kind == .rightParen || token.kind == .semicolon
    || token.endsBatch || token.isWordIn chainStopWords
    || (token.isWord "NOT" && nextIsWord "NULL" rest && !before.isWord "IS")
    || (token.isWord "NULL" && !continuesIntoNull before)

/-- The number of groups and `CASE` expressions open after `token`, with `depth` open before it. -/
def chainDepth (depth : Nat) (token : Token) : Nat :=
  if token.kind = .leftParen then depth + 1
  else if token.kind = .rightParen then depth - 1
  else if token.isWord "CASE" then depth + 1
  else if token.isWord "END" then depth - 1
  else depth

/-- The tokens after an operator chain such as `+ [b] * 2` or `IS NOT NULL AND x IN (1, 2)`.
`before` is the token read last and `depth` counts the groups and `CASE` expressions that are
open. -/
def skipChain (depth : Nat) (before : Token) : List Token → List Token
  | [] => []
  | token :: rest =>
    if depth = 0 && chainEndsAt before token rest then token :: rest
    else skipChain (chainDepth depth token) token rest

/-- Whether an operator chain begins here, after an operand. -/
def atOperator : List Token → Bool
  | [] => false
  | token :: rest =>
    token.kind == .operator
      || token.isWordIn ["AND", "OR", "IS", "IN", "LIKE", "BETWEEN"]
      || (token.isWord "NOT" && nextIsWordIn ["IN", "LIKE", "BETWEEN"] rest)

/-- The tokens after an operator chain, if one begins here. -/
def afterOperators? : List Token → Option (List Token)
  | [] => none
  | token :: rest => if atOperator (token :: rest) then some (skipChain 0 token rest) else none

/-! ## Progress -/

@[grind →] theorem length_of_closeGroup {depth : Nat} {tokens rest : List Token}
    (found : closeGroup depth tokens = .ok rest) : rest.length < tokens.length := by
  fun_induction closeGroup depth tokens <;> grind [refuse]

@[grind →] theorem length_of_skipGroup {tokens rest : List Token}
    (found : skipGroup tokens = .ok rest) : rest.length < tokens.length := by
  unfold skipGroup nextIs at found
  cases tokens <;> grind [refuse]

@[grind →] theorem length_of_skipOptionalGroup {tokens rest : List Token}
    (found : skipOptionalGroup tokens = .ok rest) : rest.length ≤ tokens.length := by
  unfold skipOptionalGroup at found
  grind

@[grind →] theorem length_of_skipElement {depth : Nat} {tokens rest : List Token}
    (found : skipElement depth tokens = .ok rest) : rest.length ≤ tokens.length := by
  fun_induction skipElement depth tokens <;> grind [refuse]

@[grind →] theorem length_of_skipUnknownOption {depth : Nat} {tokens rest : List Token}
    (found : skipUnknownOption depth tokens = .ok rest) : rest.length ≤ tokens.length := by
  fun_induction skipUnknownOption depth tokens <;> grind [refuse]

@[grind →] theorem length_of_unknownOption {tokens rest : List Token}
    (found : unknownOption tokens = .ok rest) :
    rest.length < tokens.length ∨ tokens = [] := by
  cases tokens with
  | nil => exact .inr rfl
  | cons token rest => grind [unknownOption]

theorem length_skipChain_le (depth : Nat) (before : Token) (tokens : List Token) :
    (skipChain depth before tokens).length ≤ tokens.length := by
  fun_induction skipChain depth before tokens <;> grind

@[grind →] theorem length_of_afterOperators? {tokens rest : List Token}
    (found : afterOperators? tokens = some rest) : rest.length < tokens.length := by
  cases tokens with
  | nil => simp [afterOperators?] at found
  | cons token tail => grind [afterOperators?, length_skipChain_le]

end SqlSchema.Grammar
