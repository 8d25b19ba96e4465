import SqlSchema.Text.Letter
import SqlSchema.Token.Basic

/-!
The token at the front of a text: its class, its characters and the characters after it.
-/

namespace SqlSchema

/-- The constructs that have to be closed. -/
inductive Unclosed where
  | comment
  | bracketedName
  | quotedName
  | string
  deriving DecidableEq, Repr

namespace Lexeme

/-- Whether a bare word can begin with `char`. -/
def isWordStart (char : Char) : Bool :=
  Text.isLetter char || char == '_' || char == '#'

/-- Whether `char` can stand in a bare word after its first character. -/
def isWordPart (char : Char) : Bool :=
  Text.isLetterOrNumber char || char == '_' || char == '#' || char == '@' || char == '$'

/-- The characters of a one-character operator. -/
def isOperator (char : Char) : Bool :=
  "+-*/%=<>!&|^~".toList.contains char

/-! ## Numbers -/

/-- The exponent at the front of a text: `e`, an optional sign and at least one digit. -/
def splitExponent : List Char → Option (List Char × List Char)
  | letter :: sign :: rest =>
    if letter != 'e' && letter != 'E' then none
    else if sign.isDigit then
      some (letter :: (sign :: rest).takeWhile Char.isDigit, (sign :: rest).dropWhile Char.isDigit)
    else if (sign == '+' || sign == '-') && (rest.head?.any Char.isDigit) then
      some (letter :: sign :: rest.takeWhile Char.isDigit, rest.dropWhile Char.isDigit)
    else none
  | _ => none

/-- The digits, the optional point with its digits, and the optional exponent at the front of a
text. -/
def splitNumber (chars : List Char) : TokenKind × List Char × List Char :=
  let whole := chars.takeWhile Char.isDigit
  let (kind, front, rest) :=
    match chars.dropWhile Char.isDigit with
    | '.' :: rest =>
      (TokenKind.numeric, whole ++ '.' :: rest.takeWhile Char.isDigit, rest.dropWhile Char.isDigit)
    | rest => (TokenKind.integer, whole, rest)
  match splitExponent rest with
  | none => (kind, front, rest)
  | some (exponent, rest) => (.real, front ++ exponent, rest)

/-- An exponent without digits is not part of the number. -/
example : splitNumber "1.5e+x".toList = (.numeric, "1.5".toList, "e+x".toList) := by
  decide +kernel

theorem append_of_splitExponent {chars front rest : List Char}
    (found : splitExponent chars = some (front, rest)) : front ++ rest = chars := by
  unfold splitExponent at found
  grind [List.takeWhile_append_dropWhile]

theorem splitNumber_append (chars : List Char) :
    (splitNumber chars).2.1 ++ (splitNumber chars).2.2 = chars := by
  unfold splitNumber
  grind [append_of_splitExponent, List.takeWhile_append_dropWhile]

/-- A number has at least the digit or the point that it begins with. -/
theorem ne_nil_of_splitNumber {first : Char} {chars : List Char}
    (start : first.isDigit = true ∨ first = '.') : (splitNumber (first :: chars)).2.1 ≠ [] := by
  unfold splitNumber
  rcases start with start | rfl
  · grind [List.takeWhile_cons, List.dropWhile_cons]
  · have point : Char.isDigit '.' = false := by decide
    grind [List.takeWhile_cons, List.dropWhile_cons]

/-! ## Tokens -/

/-- A command variable whose `$` has been read: it ends at the next `)` on the same line. -/
def splitVariable (chars : List Char) : Option (List Char × List Char) :=
  let isInside (char : Char) : Bool := char != ')' && char != '\n'
  match chars.dropWhile isInside with
  | ')' :: rest => some (chars.takeWhile isInside ++ [')'], rest)
  | _ => none

/-- The token whose first character is `first`, with `rest` after it. Fails where a delimited
construct is never closed; a comment is at the front only if it is not closed. -/
def split (first : Char) (rest : List Char) :
    Except Unclosed (TokenKind × List Char × List Char) :=
  let next := rest.head?
  let single (kind : TokenKind) : Except Unclosed (TokenKind × List Char × List Char) :=
    .ok (kind, [first], rest)
  let delimited (kind : TokenKind) (opening : List Char) (close : Char) (cause : Unclosed)
      (rest : List Char) : Except Unclosed (TokenKind × List Char × List Char) :=
    match Text.splitDelimited close rest with
    | some (front, rest) => .ok (kind, opening ++ front, rest)
    | none => .error cause
  match first with
  | '[' => delimited .quotedName ['['] ']' .bracketedName rest
  | '"' => delimited .quotedName ['"'] '"' .quotedName rest
  | '\'' => delimited .string ['\''] '\'' .string rest
  | '/' => if next = some '*' then .error .comment else single .operator
  | '(' => single .leftParen
  | ')' => single .rightParen
  | ',' => single .comma
  | ';' => single .semicolon
  | '@' => .ok (.variable, '@' :: rest.takeWhile isWordPart, rest.dropWhile isWordPart)
  | ':' =>
    match rest with
    | ':' :: rest => .ok (.doubleColon, [':', ':'], rest)
    | _ => single .other
  | '.' =>
    if next.any Char.isDigit then .ok (splitNumber ('.' :: rest)) else single .dot
  | '$' =>
    if next.any fun char => char.isDigit || char == '.' then
      let (_, front, rest) := splitNumber rest
      .ok (.money, '$' :: front, rest)
    else if next = some '(' then
      match splitVariable rest with
      | some (front, rest) => .ok (.commandVariable, '$' :: front, rest)
      | none => single .other
    else single .other
  | _ =>
    if (first == 'N' || first == 'n') && next = some '\'' then
      delimited .unicodeString [first, '\''] '\'' .string (rest.drop 1)
    else if first == '0' && (next = some 'x' || next = some 'X') then
      .ok (.binary, first :: rest.take 1 ++ (rest.drop 1).takeWhile Char.isHexDigit,
        (rest.drop 1).dropWhile Char.isHexDigit)
    else if first.isDigit then .ok (splitNumber (first :: rest))
    else if isWordStart first then
      .ok (.word, first :: rest.takeWhile isWordPart, rest.dropWhile isWordPart)
    else if isOperator first then
      if "<>!".toList.contains first && next.any fun char => "=<>".toList.contains char then
        .ok (.operator, first :: rest.take 1, rest.drop 1)
      else single .operator
    else single .other

example :
    (split 'N' "'it''s' x".toList).toOption =
      some (.unicodeString, "N'it''s'".toList, " x".toList) := by
  decide +kernel

/-- Without a `)` on the same line the dollar sign stands alone. -/
example : (split '$' "(name\n)".toList).toOption = some (.other, ['$'], "(name\n)".toList) := by
  decide +kernel

theorem append_of_splitVariable {chars front rest : List Char}
    (found : splitVariable chars = some (front, rest)) : front ++ rest = chars := by
  unfold splitVariable at found
  grind [List.takeWhile_append_dropWhile]

/-- A token and what follows it are the text that was read. -/
theorem append_of_split {first : Char} {chars : List Char} {kind : TokenKind}
    {front rest : List Char} (found : split first chars = .ok (kind, front, rest)) :
    front ++ rest = first :: chars := by
  unfold split at found
  grind [append_of_splitVariable, splitNumber_append, Text.append_of_splitDelimited,
    List.takeWhile_append_dropWhile, List.take_append_drop, List.head?_eq_some_iff]

theorem ne_nil_of_split {first : Char} {chars : List Char} {kind : TokenKind}
    {front rest : List Char} (found : split first chars = .ok (kind, front, rest)) :
    front ≠ [] := by
  unfold split at found
  grind [ne_nil_of_splitNumber]

theorem length_of_split {first : Char} {chars : List Char} {kind : TokenKind}
    {front rest : List Char} (found : split first chars = .ok (kind, front, rest)) :
    rest.length ≤ chars.length := by
  have whole := congrArg List.length (append_of_split found)
  have some := List.length_pos_iff.mpr (ne_nil_of_split found)
  simp only [List.length_append, List.length_cons] at whole
  omega

end Lexeme

end SqlSchema
