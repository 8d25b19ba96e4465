import SqlSchema.Code.Grammar.Level
import SqlSchema.Code.Scan

/-!
Types of generated code. A type is kept as the tokens that it is written as; `ofText?` reads one
from its text.
-/

namespace SqlSchema

/-- A type in code. -/
structure CodeType where
  tokens : List CodeToken
  deriving DecidableEq, Repr

namespace CodeType

/-- The text without the mark that some editors leave at its start. -/
def withoutMark : List Char → List Char
  | char :: rest => if char = Trivia.byteOrderMark then rest else char :: rest
  | [] => []

/-- The type that makes up all of the tokens. -/
def ofTokens? (tokens : List CodeToken) : Option CodeType :=
  match CodeGrammar.readType tokens with
  | some ⟨_, written, []⟩ => some ⟨written⟩
  | _ => none

/-- The type that makes up all of a text. -/
def ofText? (text : String) : Option CodeType :=
  (CodeScan.tokens? (withoutMark text.toList)).bind ofTokens?

/-- The text of a type. -/
def text (type : CodeType) : String :=
  CodeToken.layout type.tokens

example : (ofText? "Vec<Vec<u8>>").map text = some "Vec < Vec < u8 > >" := by decide +kernel

example : (ofText? "fn(&'a T, [u8; 4]) -> (i32,)").map text =
    some "fn (& 'a T , [u8 ; 4]) -> (i32 ,)" := by
  decide +kernel

example : (ofText? "(for<'a> Fn<'a>) + Send").map text =
    some "(for < 'a > Fn < 'a >) + Send" := by
  decide +kernel

example : (ofText? "[u8; if N < 2 { 1 } else { N.pow(2) as usize }]").map text =
    some "[u8 ; if N < 2 \x7b 1 \x7d else \x7b N . pow (2) as usize \x7d]" := by
  decide +kernel

/-- The sign of a constant is a mark of its own, and a lifetime comes before it. -/
example : (ofText? "T<-1, 'a, N = { 2 }>").map text =
    some "T < 'a , - 1 , N = \x7b 2 \x7d >" := by
  decide +kernel

/-- A constant bound stays as it stands, and the number of a member is written in decimal digits. -/
example : ["T<A: const F<&u8>>", "[u8; X.0x1.b]"].map (fun code => (ofText? code).map text) =
    [some "T < A : const F <& u8 >>", some "[u8 ; X . 1 . b]"] := by
  decide +kernel

example : ["", "struct", "i32 i32", "Vec<u8", "a::", "\"x\""].map ofText? =
    [none, none, none, none, none, none] := by
  decide +kernel

/-- Only bounds take arguments in parentheses, and comparisons do not follow one another. -/
example : ["Fn(u8)", "&dyn A + B", "[u8; 1 < 2 < 3]", "[u8; 0x]"].map ofText? =
    [none, none, none, none] := by
  decide +kernel

end CodeType

end SqlSchema
