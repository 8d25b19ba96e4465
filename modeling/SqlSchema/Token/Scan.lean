import SqlSchema.Token.Trivia
import SqlSchema.SyntaxError

/-!
Scanning: a script becomes its tokens. A script that ends inside a delimited construct yields the
tokens before that construct and an error.
-/

namespace SqlSchema

/-- A place in a script: byte offset from 0 and line from 1. -/
structure Place where
  offset : Nat
  line : Nat
  deriving DecidableEq, Repr

namespace Place

/-- Where a script begins. -/
def origin : Place := ⟨0, 1⟩

/-- The place after `chars`; only a line feed ends a line. -/
def after (place : Place) (chars : List Char) : Place :=
  ⟨chars.foldl (fun offset char => offset + char.utf8Size) place.offset,
    place.line + chars.count '\n'⟩

@[simp] theorem after_nil (place : Place) : place.after [] = place := by
  simp [after]

theorem after_append (place : Place) (left right : List Char) :
    place.after (left ++ right) = (place.after left).after right := by
  simp [after, List.count_append, Nat.add_assoc]

end Place

namespace Token

/-- The tokens of `chars`, which begins at `place`, and the error that ends them, if one does.
`taken` is the line on which the token before begins, 0 if there is none. -/
def scanFrom (place : Place) (taken : Nat) (chars : List Char) :
    List Token × Option SyntaxError :=
  match _ : Trivia.split chars with
  | (_, []) => ([], none)
  | (lead, first :: tail) =>
    let here := place.after lead
    match _ : Lexeme.split first tail with
    | .error construct => ([], some (.unclosed construct here.line))
    | .ok (kind, text, rest) =>
      let token : Token :=
        { kind, text := String.ofList text, lead := String.ofList lead, start := here.offset
          line := here.line, opensLine := taken < here.line }
      let (tokens, error) := scanFrom (here.after text) here.line rest
      (token :: tokens, error)
termination_by chars.length
decreasing_by
  rename_i split lexeme
  have shorter := Lexeme.length_of_split lexeme
  have tailShorter := Trivia.length_split chars
  simp_all
  omega

/-- The tokens of a script up to the first error, and that error. -/
def scanUpToError (source : String) : List Token × Option SyntaxError :=
  scanFrom .origin 0 source.toList

/-- The tokens of a script. -/
def scan (source : String) : Except SyntaxError (List Token) :=
  match scanUpToError source with
  | (tokens, none) => .ok tokens
  | (_, some error) => .error error

/-- A token keeps the comment before it. -/
example :
    ((scanUpToError "A -- note\n B").1.map fun token => (token.lead, token.text, token.line)) =
      [("", "A", 1), (" -- note\n ", "B", 2)] := by
  decide +kernel

/-- The tokens before an unclosed string are kept. -/
example : (scanUpToError "A\n'b").2 = some (.unclosed .string 2) := by decide +kernel

end Token

end SqlSchema
