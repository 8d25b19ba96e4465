import SqlSchema.Token.Lexeme

/-!
Why a script is refused. A script fails either because a delimited construct is never closed, or
because a `CREATE TABLE` statement wants something else than the token it finds.
-/

namespace SqlSchema

/-- What a `CREATE TABLE` statement wants where it stops. -/
inductive Wanted where
  /-- Any token at all. -/
  | more
  | leftParen
  | rightParen
  | keyword (word : String)
  | name
  | constraint
  | expression
  /-- A table name of at most four parts. -/
  | shorterName
  deriving DecidableEq, Repr

/-- A script that cannot be read. -/
inductive SyntaxError where
  /-- The construct that begins on `line` is never closed. -/
  | unclosed (construct : Unclosed) (line : Nat)
  /-- `found` is the text of the token met, none at the end of the script. -/
  | refused (wanted : Wanted) (found : Option String) (line : Nat)
  deriving DecidableEq, Repr

namespace Unclosed

def message : Unclosed → String
  | .comment => "unterminated comment"
  | .bracketedName => "unterminated bracketed identifier"
  | .quotedName => "unterminated quoted identifier"
  | .string => "unterminated string literal"

end Unclosed

namespace Wanted

def message : Wanted → String
  | .more => "unexpected end of input"
  | .leftParen => "expected '('"
  | .rightParen => "expected ')'"
  | .keyword word => "expected " ++ word
  | .name => "expected identifier"
  | .constraint => "expected constraint"
  | .expression => "expected expression"
  | .shorterName => "too many name parts in table name"

end Wanted

namespace SyntaxError

def line : SyntaxError → Nat
  | .unclosed _ line => line
  | .refused _ _ line => line

def message : SyntaxError → String
  | .unclosed construct _ => construct.message
  | .refused .more _ _ => Wanted.more.message
  | .refused wanted (some found) _ => wanted.message ++ " near '" ++ found ++ "'"
  | .refused wanted none _ => wanted.message ++ " at end of input"

/-- The message with the line, for a script that has no file. -/
def text (error : SyntaxError) : String :=
  "line " ++ toString error.line ++ ": " ++ error.message

/-- The message with the line, for a script in the file `path`. -/
def textIn (error : SyntaxError) (path : String) : String :=
  "syntax error in " ++ path ++ " at line " ++ toString error.line ++ ": " ++ error.message

example : (refused .rightParen (some ";") 3).text = "line 3: expected ')' near ';'" := by
  decide +kernel

end SyntaxError

end SqlSchema
