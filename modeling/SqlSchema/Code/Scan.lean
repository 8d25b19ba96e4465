import SqlSchema.Code.Identifier
import SqlSchema.Code.Literal
import SqlSchema.Code.Token
import SqlSchema.Token.Trivia

/-!
Scanning of code: the text of a type becomes its tokens. White space and comments separate tokens
and leave no trace, except that a documentation comment stands for an attribute.
-/

namespace SqlSchema.CodeScan

/-- The tokens at the front of a text and what follows them. -/
abbrev Split := List Char → Option (List CodeToken × List Char)

/-! ## Comments -/

/-- White space in code: White_Space and the two direction marks. -/
def isBlank (char : Char) : Bool :=
  Text.isBlank char || char == '\u200E' || char == '\u200F'

/-- Whether a comment is documentation; `second` is its second character, `/` or `*`. -/
def isDocumentation : Char → List Char → Bool
  | '/', '/' :: '/' :: _ | '*', '*' :: '/' :: _ | '*', '*' :: '*' :: _ => false
  | '/', '/' :: _ | '*', '*' :: _ | _, '!' :: _ => true
  | _, _ => false

/-- Whether a carriage return stands anywhere but at a line end. -/
def hasLoneReturn : List Char → Bool
  | [] => false
  | '\r' :: '\n' :: rest => hasLoneReturn rest
  | char :: rest => char == '\r' || hasLoneReturn rest

/-- The rest of a line without its line end, and the line end with what follows. -/
def splitLine (chars : List Char) : List Char × List Char :=
  let line := chars.takeWhile (· != '\n')
  let rest := chars.dropWhile (· != '\n')
  (if !rest.isEmpty && line.getLast? = some '\r' then line.dropLast else line, rest)

/-- The text of a comment whose first two characters have been read, and what follows it. -/
def splitComment (second : Char) (chars : List Char) : Option (List Char × List Char) :=
  if second = '/' then some (splitLine chars)
  else
    (Trivia.splitComment 0 chars).map fun (front, rest) => (front.take (front.length - 2), rest)

/-- The attribute that a documentation comment stands for. `kind` is the third character of the
comment; `!` documents what is around it. -/
def documentation (kind : Char) (text : List Char) : List CodeToken :=
  let inner := if kind = '!' then [.mark '!' false] else []
  .mark '#' false :: inner ++ CodeToken.brackets
    [.word "doc", .mark '=' false, CodeToken.quoted (String.ofList text)]

/-- The tokens of a comment whose first two characters have been read. -/
def comment (second : Char) : Split := fun chars => do
  let (text, rest) ← splitComment second chars
  if isDocumentation second chars then
    match text with
    | kind :: text => if hasLoneReturn text then none else some (documentation kind text, rest)
    | [] => none
  else some ([], rest)

/-! ## Identifiers -/

/-- Whether a word can be written as a raw identifier. -/
def isRawName (word : List Char) : Bool :=
  let text := String.ofList word
  text != "_" && !Identifier.pathKeywords.contains text

/-- The identifier at the front of a text, which may be written raw. -/
def splitIdentifier : List Char → Option (List Char × List Char)
  | 'r' :: '#' :: rest =>
    match CodeLiteral.splitWord rest with
    | none => none
    | some (word, rest) => if isRawName word then some ('r' :: '#' :: word, rest) else none
  | chars => CodeLiteral.splitWord chars

/-- What a quoted text begins with. A text that begins like this and is no literal is refused, also
where a word could be read. -/
def quotedFronts : List String :=
  ["r\"", "r#\"", "r##", "b\"", "b'", "br\"", "br#", "c\"", "cr\"", "cr#"]

def startsQuoted (chars : List Char) : Bool :=
  quotedFronts.any fun front => front.toList.isPrefixOf chars

/-! ## Marks -/

/-- The punctuation characters. -/
def isMark (char : Char) : Bool :=
  "~!@#$%^&*-=+|;:,<.>/?'".toList.contains char

/-- Whether a punctuation character is at the front, and not the start of a comment. -/
def startsWithMark : List Char → Bool
  | '/' :: '/' :: _ | '/' :: '*' :: _ => false
  | char :: _ => isMark char
  | [] => false

/-- Whether the name of a lifetime comes after a quote: no quote may close it, and `#` follows only
a raw one. -/
def startsLifetime (chars : List Char) : Bool :=
  match splitIdentifier chars with
  | none => false
  | some (_, rest) =>
    match rest with
    | '\'' :: _ => false
    | '#' :: _ => "r#".toList.isPrefixOf chars
    | _ => true

/-- The mark at the front of a text. -/
def splitMark : Split
  | '\'' :: rest => if startsLifetime rest then some ([.mark '\'' true], rest) else none
  | chars =>
    match chars with
    | char :: rest =>
      if startsWithMark chars then some ([.mark char (startsWithMark rest)], rest) else none
    | [] => none

/-! ## Tokens -/

/-- The delimiter that a character is, if it is one. -/
def delimiter? : Char → Option CodeToken
  | '(' => some (.opening .parenthesis)
  | ')' => some (.closing .parenthesis)
  | '[' => some (.opening .bracket)
  | ']' => some (.closing .bracket)
  | '\x7b' => some (.opening .brace)
  | '\x7d' => some (.closing .brace)
  | _ => none

/-- What stands in place of a literal that could not be read. It counts as a literal. -/
def unreadable : String := "(/*ERROR*/)"

/-- The literal, mark or identifier at the front of a text. -/
def splitLeaf : Split := fun chars =>
  match CodeLiteral.split chars with
  | some (literal, rest) => some ([.literal (String.ofList literal)], rest)
  | none =>
    (splitMark chars).orElse fun _ =>
      if startsQuoted chars then none
      else (splitIdentifier chars).map fun (word, rest) => ([.word (String.ofList word)], rest)

/-- The tokens of one token or one piece of trivia at the front of a text. -/
def splitFirst (first : Char) (rest : List Char) : Option (List CodeToken × List Char) :=
  if isBlank first then some ([], rest)
  else
    match first, rest with
    | '/', '/' :: rest => comment '/' rest
    | '/', '*' :: rest => comment '*' rest
    | _, _ =>
      if unreadable.toList.isPrefixOf (first :: rest) then
        some ([.literal unreadable], (first :: rest).drop unreadable.length)
      else
        match delimiter? first with
        | some token => some ([token], rest)
        | none => splitLeaf (first :: rest)

/-- The tokens of a text, `count` at most. -/
def tokensUpTo : Nat → List Char → Option (List CodeToken)
  | _, [] => some []
  | 0, _ => none
  | count + 1, first :: rest => do
    let (tokens, rest) ← splitFirst first rest
    return tokens ++ (← tokensUpTo count rest)

/-- The tokens of a text. Each takes a character, so the number of characters is enough. -/
def tokens? (chars : List Char) : Option (List CodeToken) :=
  tokensUpTo chars.length chars

example : tokens? "Vec<&'a u8> // bytes".toList =
    some [.word "Vec", .mark '<' true, .mark '&' true, .mark '\'' true, .word "a", .word "u8",
      .mark '>' false] := by
  decide +kernel

example : (tokens? "/// a\r\nx".toList).map CodeToken.layout = some "# [doc = \" a\"] x" := by
  decide +kernel

/-- An open quote or comment is refused, and a word that a quote closes. -/
example : ["\"x", "a /*", "'ab'", "b\"é\""].map (fun text => tokens? text.toList) =
    [none, none, none, none] := by
  decide +kernel

end SqlSchema.CodeScan
