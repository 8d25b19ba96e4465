import SqlSchema.Code.Grammar.Block
import SqlSchema.Code.Grammar.Expression
import SqlSchema.Code.Grammar.Type

/-!
All levels of the grammar: what stands inside a construct is read one level deeper, and the deepest
level refuses everything.
-/

namespace SqlSchema.CodeGrammar

/-- One level of a construct. -/
def levelOf : (construct : Construct) → ReaderOf construct.scope CodeToken construct.Value
  | .type allowsPlus => typeOf allowsPlus
  | .argument => argumentOf
  | .parameter => parameterOf
  | .expression allowsStruct => do
    let _ ← expressionOf allowsStruct
  | .statement => statementOf
  | .block allowsAttributes => blockOf allowsAttributes
  | .pattern => patternOf

/-- The runs that read constructs which are `depth` levels deep at most. -/
def levelUpTo : Nat → Inner
  | 0 => .nothing
  | depth + 1 => fun construct => (levelOf construct).run (levelUpTo depth)

/-- Reads a type. At least every third level takes a token, so three for each are enough. -/
def readType : Run CodeToken TypeShape :=
  fun tokens => levelUpTo (3 * tokens.length + 3) (.type true) tokens

end SqlSchema.CodeGrammar
