import SqlSchema.Text.Shown

/-!
Tokens of generated Rust code and the text that they are written as. Code is built as a list of
tokens; only `layout` decides where a space goes.
-/

namespace SqlSchema

/-! ## Tokens -/

/-- What a group of tokens stands between. -/
inductive Delimiter where
  | parenthesis
  | bracket
  | brace
  deriving DecidableEq, Repr

/-- A token of code. -/
inductive CodeToken where
  /-- An identifier or a keyword. -/
  | word (text : String)
  /-- A punctuation character; `joined` when the next character belongs to the same operator. -/
  | mark (char : Char) (joined : Bool)
  /-- A number or a quoted text, as it is spelled. -/
  | literal (text : String)
  | opening (delimiter : Delimiter)
  | closing (delimiter : Delimiter)
  deriving DecidableEq, Repr

namespace Delimiter

def openText : Delimiter → String
  | parenthesis => "("
  | bracket => "["
  | brace => "\x7b"

def closeText : Delimiter → String
  | parenthesis => ")"
  | bracket => "]"
  | brace => "\x7d"

end Delimiter

namespace CodeToken

/-! ## Layout -/

/-- The text of a token. -/
def text : CodeToken → String
  | word text => text
  | mark char _ => String.singleton char
  | literal text => text
  | opening delimiter => delimiter.openText
  | closing delimiter => delimiter.closeText

/-- Whether nothing is written between a token and the one after it. -/
def isTight : CodeToken → Bool
  | mark _ joined => joined
  | opening delimiter => delimiter != .brace
  | _ => false

/-- Whether nothing is written between a token and the one before it. -/
def isTightBefore : CodeToken → Bool
  | closing delimiter => delimiter != .brace
  | _ => false

/-- What is written between two tokens: a space, except inside parentheses and brackets and inside
an operator. -/
def separator (left right : CodeToken) : String :=
  if left.isTight || right.isTightBefore then "" else " "

/-- The text of a list of tokens. -/
def layout : List CodeToken → String
  | [] => ""
  | [token] => token.text
  | token :: next :: rest => token.text ++ separator token next ++ layout (next :: rest)

/-! ## Building code -/

/-- The marks of an operator of one or more characters. -/
def operator (text : String) : List CodeToken :=
  let chars := text.toList
  chars.dropLast.map (mark · true) ++ chars.getLast?.toList.map (mark · false)

/-- A lifetime; `name` does not include the quote. -/
def lifetime (name : String) : List CodeToken :=
  [mark '\'' true, word name]

/-- Tokens between delimiters. -/
def group (delimiter : Delimiter) (tokens : List CodeToken) : List CodeToken :=
  opening delimiter :: tokens ++ [closing delimiter]

def parens (tokens : List CodeToken) : List CodeToken :=
  group .parenthesis tokens

def brackets (tokens : List CodeToken) : List CodeToken :=
  group .bracket tokens

def braces (tokens : List CodeToken) : List CodeToken :=
  group .brace tokens

/-- Items with a comma between them. -/
def commaSeparated (items : List (List CodeToken)) : List CodeToken :=
  (operator ",").intercalate items

/-! ## Quoted texts -/

/-- How a character stands in a quoted text before `next`. -/
def quotedChar (char : Char) (next : Option Char) : String :=
  match char with
  | '"' => "\\\""
  | '\\' => "\\\\"
  | '\t' => "\\t"
  | '\n' => "\\n"
  | '\r' => "\\r"
  | '\x00' => if next.any fun next => '0' ≤ next && next ≤ '7' then "\\x00" else "\\0"
  | char =>
    if Text.isShown char then String.singleton char
    else "\\u\x7b" ++ String.ofList (Nat.toDigits 16 char.toNat) ++ "\x7d"

/-- The characters of a quoted text. -/
def quotedChars : List Char → String
  | [] => ""
  | char :: rest => quotedChar char rest.head? ++ quotedChars rest

/-- The literal whose value is `value`. -/
def quoted (value : String) : CodeToken :=
  literal ("\"" ++ quotedChars value.toList ++ "\"")

example : (quoted "a\"b\n").text = "\"a\\\"b\\n\"" := by decide +kernel

/-- A digit after a zero character would read as part of its escape. -/
example : ((quoted "\x00\u200b").text, (quoted "\x007").text) =
    ("\"\\0\\u\x7b200b\x7d\"", "\"\\x007\"") := by decide +kernel

example :
    layout (word "f" :: parens (operator "&" ++ lifetime "a" ++ [word "T"]) ++ operator "->"
      ++ braces []) = "f (& 'a T) -> \x7b \x7d" := by
  decide +kernel

end CodeToken

end SqlSchema
