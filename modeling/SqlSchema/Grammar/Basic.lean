import SqlSchema.SyntaxError

/-!
Reading tokens. A reader takes the tokens still to be read and returns a value with the tokens after
it, or says what it wanted and which token it found instead.
-/

namespace SqlSchema.Grammar

/-- Where reading stops: `found` is the token met, none at the end. -/
structure Refusal where
  wanted : Wanted
  found : Option Token

/-- The error for a refusal in a script whose last token begins on `lastLine`. -/
def Refusal.toError (refusal : Refusal) (lastLine : Nat) : SyntaxError :=
  match refusal.found with
  | some token => .refused refusal.wanted (some token.text) token.line
  | none => .refused refusal.wanted none lastLine

/-- Refuses the token that comes next. -/
def refuse {α : Type} (wanted : Wanted) (tokens : List Token) : Except Refusal α :=
  .error ⟨wanted, tokens.head?⟩

/-! ## The next token -/

/-- Whether the next token is `keyword`. -/
def nextIsWord (keyword : String) (tokens : List Token) : Bool :=
  tokens.head?.any (·.isWord keyword)

/-- Whether the next token is one of the keywords. -/
def nextIsWordIn (keywords : List String) (tokens : List Token) : Bool :=
  tokens.head?.any (·.isWordIn keywords)

/-- Whether the next token is of the class `kind`. -/
def nextIs (kind : TokenKind) (tokens : List Token) : Bool :=
  tokens.head?.any (·.kind == kind)

/-- Whether the next token can stand for a name. -/
def nextIsName (tokens : List Token) : Bool :=
  tokens.head?.any Token.isName

/-- Whether the next tokens are these keywords, in this order. -/
def nextAreWords : List String → List Token → Bool
  | [], _ => true
  | _, [] => false
  | keyword :: keywords, token :: rest => token.isWord keyword && nextAreWords keywords rest

/-- Whether an element of a list ends here: at its comma, at the closing parenthesis or at the end
of the script. -/
def atElementEnd (tokens : List Token) : Bool :=
  tokens.isEmpty || nextIs .comma tokens || nextIs .rightParen tokens

/-! ## Single tokens -/

/-- Leaves out the next token if it is `keyword`. -/
def dropWord (keyword : String) (tokens : List Token) : List Token :=
  if nextIsWord keyword tokens then tokens.tail else tokens

/-- The tokens after `keyword`. -/
def expectWord (keyword : String) (tokens : List Token) : Except Refusal (List Token) :=
  if nextIsWord keyword tokens then .ok tokens.tail else refuse (.keyword keyword) tokens

/-- The tokens after `)`. -/
def expectRightParen (tokens : List Token) : Except Refusal (List Token) :=
  if nextIs .rightParen tokens then .ok tokens.tail else refuse .rightParen tokens

/-- A name. -/
def name : List Token → Except Refusal (String × List Token)
  | token :: rest => if token.isName then .ok (token.name, rest) else refuse .name (token :: rest)
  | [] => refuse .name []

@[grind →] theorem length_of_nextIsWord {keyword : String} {tokens : List Token}
    (next : nextIsWord keyword tokens = true) : 0 < tokens.length := by
  cases tokens <;> simp_all [nextIsWord]

@[grind →] theorem length_of_nextIs {kind : TokenKind} {tokens : List Token}
    (next : nextIs kind tokens = true) : 0 < tokens.length := by
  cases tokens <;> simp_all [nextIs]

@[grind →] theorem length_of_nextAreWords {keywords : List String} {tokens : List Token}
    (next : nextAreWords keywords tokens = true) : keywords.length ≤ tokens.length := by
  fun_induction nextAreWords keywords tokens <;> grind

theorem length_tail_of_nextIs {kind : TokenKind} {tokens : List Token}
    (next : nextIs kind tokens = true) : tokens.tail.length < tokens.length := by
  cases tokens <;> simp_all [nextIs]

theorem length_dropWord_le (keyword : String) (tokens : List Token) :
    (dropWord keyword tokens).length ≤ tokens.length := by
  unfold dropWord
  split <;> simp

@[grind →] theorem length_of_expectWord {keyword : String} {tokens rest : List Token}
    (found : expectWord keyword tokens = .ok rest) : rest.length < tokens.length := by
  unfold expectWord nextIsWord at found
  cases tokens <;> grind [refuse]

@[grind →] theorem length_of_expectRightParen {tokens rest : List Token}
    (found : expectRightParen tokens = .ok rest) : rest.length < tokens.length := by
  unfold expectRightParen nextIs at found
  cases tokens <;> grind [refuse]

@[grind →] theorem length_of_name {tokens rest : List Token} {text : String}
    (found : name tokens = .ok (text, rest)) : rest.length < tokens.length := by
  unfold name at found
  cases tokens <;> grind [refuse]

end SqlSchema.Grammar
