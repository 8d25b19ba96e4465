import SqlSchema.Text.Case
import SqlSchema.Text.Quoted

/-!
Tokens of a script. A token keeps the text before it (`lead`: white space and comments), so a list
of tokens can be written out again without the script it came from.
-/

namespace SqlSchema

/-- What a literal denotes. -/
inductive LiteralKind where
  | integer
  | numeric
  | real
  | string
  | unicodeString
  | binary
  | money
  | null
  deriving DecidableEq, Repr

/-- The classes of tokens. -/
inductive TokenKind where
  /-- A bare word: keyword, name or type name. -/
  | word
  /-- A name in brackets or double quotes. -/
  | quotedName
  | string
  /-- A string with the letter `N` before it. -/
  | unicodeString
  | integer
  | numeric
  | real
  /-- A hexadecimal literal. -/
  | binary
  /-- A number with a dollar sign before it. -/
  | money
  /-- A word with `@` before it. -/
  | variable
  | leftParen
  | rightParen
  | comma
  | dot
  | semicolon
  | operator
  | doubleColon
  /-- A command variable `$(name)`. -/
  | commandVariable
  /-- A character that begins no other token. -/
  | other
  deriving DecidableEq, Repr

/-- The literal that a token of this class is, if it is one. -/
def TokenKind.literal? : TokenKind → Option LiteralKind
  | .integer => some .integer
  | .numeric => some .numeric
  | .real => some .real
  | .string => some .string
  | .unicodeString => some .unicodeString
  | .binary => some .binary
  | .money => some .money
  | _ => none

/-- A token and where it stands. -/
structure Token where
  kind : TokenKind
  text : String
  /-- White space and comments between the token before and this one. -/
  lead : String
  /-- Byte offset of the first character. -/
  start : Nat
  /-- Line of the first character, counted from 1. -/
  line : Nat
  /-- Whether no earlier token begins on this line. -/
  opensLine : Bool
  deriving DecidableEq, Repr

namespace Token

/-- Byte offset after the last character. -/
def stop (token : Token) : Nat :=
  token.start + token.text.utf8ByteSize

/-- Whether the token is `keyword`, written in any case and without delimiters. -/
def isWord (token : Token) (keyword : String) : Bool :=
  token.kind == .word && Text.equalIgnoringCase token.text keyword

/-- Whether the token is one of the keywords. -/
def isWordIn (token : Token) (keywords : List String) : Bool :=
  keywords.any token.isWord

/-- Whether the token can stand where a name is wanted. -/
def isName (token : Token) : Bool :=
  token.kind == .word || token.kind == .quotedName

/-- The content of a delimited text whose delimiters are one character each. -/
def content (close : Char) (chars : List Char) : String :=
  String.ofList (Text.undouble close (chars.drop 1).dropLast)

/-- The name that the token stands for: its text, without delimiters if it has them. -/
def name (token : Token) : String :=
  match token.kind, token.text.toList with
  | .quotedName, '[' :: rest => content ']' ('[' :: rest)
  | .quotedName, chars => content '"' chars
  | _, _ => token.text

/-- The value of a literal: the content of a string, the text of anything else. -/
def literalValue (token : Token) : String :=
  match token.kind with
  | .string => content '\'' token.text.toList
  | .unicodeString => content '\'' (token.text.toList.drop 1)
  | _ => token.text

/-- What the token says: a name or a literal value. -/
def value (token : Token) : String :=
  if token.isName then token.name else token.literalValue

/-- `GO` as the first word of a line ends a batch. -/
def endsBatch (token : Token) : Bool :=
  token.isWord "GO" && token.opensLine

/-! ## Texts of runs -/

/-- The tokens of `tokens` before `rest`, where `rest` is what follows them. -/
def run (tokens rest : List Token) : List Token :=
  tokens.take (tokens.length - rest.length)

theorem run_append (front rest : List Token) : run (front ++ rest) rest = front := by
  simp [run]

/-- Tokens as written, each after its lead. -/
def written (tokens : List Token) : String :=
  String.join (tokens.map fun token => token.lead ++ token.text)

/-- Tokens as written from the start of the first one. -/
def textOf : List Token → String
  | [] => ""
  | first :: rest => first.text ++ written rest

/-- The text from the first token of `tokens` to the last token before `rest`. -/
def textTo (tokens rest : List Token) : String :=
  textOf (run tokens rest)

end Token

end SqlSchema
