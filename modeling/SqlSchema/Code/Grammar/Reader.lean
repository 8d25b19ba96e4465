import SqlSchema.Code.Grammar.Run

/-!
Readers of code. A reader takes the tokens of one construct from the front of a list and writes the
tokens that the construct is written as: operators are written one by one, so that `>>` at the end
of two argument lists becomes two marks. What stands inside a construct is read by runs that are
given to it, so that every construct can be read by itself.
-/

namespace SqlSchema.CodeGrammar

/-! ## Constructs -/

/-- Where a reader may be used. -/
inductive Scope where
  /-- Also where `>` may come next. -/
  | anywhere
  /-- Only where a group ends after what is read. -/
  | inGroup
  deriving DecidableEq, Repr

/-- What matters about a type for what may stand around it. -/
inductive TypeShape where
  | call
  /-- A single bound, to which others can be added. -/
  | bound
  | other
  deriving DecidableEq, Repr

/-- What matters about an expression for what may follow it. -/
inductive ExpressionShape where
  | range
  | comparison
  /-- A construct that ends with a block, which makes up a statement by itself. -/
  | block
  | other
  deriving DecidableEq, Repr

/-- The constructs that stand inside others. -/
inductive Construct where
  /-- A type, in which `+` may join bounds if the flag says so. -/
  | type (allowsPlus : Bool)
  /-- An argument between angle brackets. -/
  | argument
  /-- A parameter that `for` introduces. -/
  | parameter
  /-- An expression, which may be a structure with its fields if the flag says so. -/
  | expression (allowsStruct : Bool)
  /-- An expression as a statement: a block at its front ends it. -/
  | statement
  /-- A block, which may begin with attributes of its own if the flag says so. -/
  | block (allowsAttributes : Bool)
  /-- A pattern without alternatives. -/
  | pattern
  deriving DecidableEq, Repr

namespace Construct

/-- What is found out about a construct besides what is written for it; of an argument, whether it
is a lifetime. -/
def Value : Construct → Type
  | type _ => TypeShape
  | argument => Bool
  | statement => ExpressionShape
  | parameter | expression _ | block _ | pattern => Unit

def scope : Construct → Scope
  | type _ | argument | parameter | block _ => .anywhere
  | expression _ | statement | pattern => .inGroup

end Construct

/-- The runs that read what stands inside a construct. -/
def Inner : Type :=
  (construct : Construct) → Run CodeToken construct.Value

namespace Inner

/-- Nothing may stand inside a construct. -/
def nothing : Inner :=
  fun _ _ => none

def Within (inner more : Inner) : Prop :=
  ∀ construct, (inner construct).Within (more construct)

structure WithinAngle (inner more : Inner) : Prop where
  within : inner.Within more
  withinAngle : ∀ construct : Construct, construct.scope = .anywhere →
    (inner construct).WithinAngle (more construct)

end Inner

/-! ## Readers -/

/-- A reader of a construct, given the runs that read what stands inside. It finds the same if these
find more, and if `>` comes next where it may be used anywhere. -/
structure ReaderOf (scope : Scope) (ω α : Type) where
  run : Inner → Run ω α
  within : ∀ {inner more : Inner}, inner.Within more → (run inner).Within (run more)
  withinAngle : ∀ {inner more : Inner}, scope = .anywhere → inner.WithinAngle more →
    (run inner).WithinAngle (run more)

/-- Only writes tokens. -/
abbrev Reader (scope : Scope) := ReaderOf scope CodeToken Unit

/-- A question about the tokens that come next. -/
abbrev Peek (scope : Scope) := ReaderOf scope CodeToken Bool

section

variable {scope : Scope} {ω ω' α β σ : Type}

/-- The reader that does not ask what stands inside. -/
def ReaderOf.ofRun (run : Run ω α) (withinAngle : scope = .anywhere → run.WithinAngle run) :
    ReaderOf scope ω α where
  run _ := run
  within _ _ _ := id
  withinAngle isAnywhere _ := withinAngle isAnywhere

instance : Monad (ReaderOf scope ω) where
  pure value := .ofRun (.done value []) fun _ => Run.withinAngle_done
  bind first next :=
    { run inner := (first.run inner).bind fun value => (next value).run inner
      within more := (first.within more).bind fun value => (next value).within more
      withinAngle isAnywhere more := (first.withinAngle isAnywhere more).bind fun value =>
        (next value).withinAngle isAnywhere more }

def refuse : ReaderOf scope ω α :=
  .ofRun (fun _ => none) fun _ => nofun

/-- Writes tokens without taking any. -/
def write (tokens : List ω) : ReaderOf scope ω Unit :=
  .ofRun (.done () tokens) fun _ => Run.withinAngle_done

/-- Changes what is written. -/
def mapWritten (change : α → List ω → List ω') (reader : ReaderOf scope ω α) :
    ReaderOf scope ω' α where
  run inner := (reader.run inner).mapWritten change
  within more := (reader.within more).mapWritten
  withinAngle isAnywhere more := (reader.withinAngle isAnywhere more).mapWritten

/-- Takes tokens without writing them. -/
def silently (reader : ReaderOf scope ω α) : ReaderOf scope ω' α :=
  mapWritten (fun _ _ => []) reader

/-- Tells something about what is written in a group. -/
def tellWritten (view : List ω → β) (reader : ReaderOf .inGroup ω α) : ReaderOf .inGroup ω β where
  run inner := (reader.run inner).tellWritten view
  within more := (reader.within more).tellWritten
  withinAngle := nofun

/-- Writes the tokens as they stand if the reader says so. -/
def asItStandsIf (reader : ReaderOf scope CodeToken Bool) : Reader scope where
  run inner := (reader.run inner).asItStandsIf
  within more := (reader.within more).asItStandsIf
  withinAngle isAnywhere more := (reader.withinAngle isAnywhere more).asItStandsIf

/-! ## Looking ahead

What has to hold of the text of an operator is an equation of truth values, which evaluation settles
wherever the text is written out. -/

/-- What can be seen of the tokens, which is the same when `>` comes after them. -/
def look (view : List CodeToken → α)
    (same : scope = .anywhere → ∀ isJoined tokens, view (beforeAngle isJoined tokens) = view tokens) :
    ReaderOf scope ω α :=
  .ofRun (.look view) fun isAnywhere => Run.withinAngle_look (same isAnywhere)

/-- What can be seen of the rest of a group. -/
def lookInGroup (view : List CodeToken → α) : ReaderOf .inGroup ω α :=
  look view nofun

/-- Whether an operator comes next, alone or at the front of a longer one. -/
def nextIs (operator : String)
    (apart : meetsAngle operator.toList = false := by exact Eq.refl false) : Peek scope :=
  look (startsWith operator.toList) fun _ _ _ => startsWith_beforeAngle apart

/-- Whether one of some operators comes next. -/
def nextIsOneOf (operators : List String)
    (apart : (operators.any fun operator => meetsAngle operator.toList) = false := by
      exact Eq.refl false) :
    Peek scope :=
  look (fun tokens => operators.any fun operator => startsWith operator.toList tokens)
    fun _ _ _ => Bool.eq_iff_iff.mpr <| by
      simp only [List.any_eq_true]
      exact exists_congr fun operator => and_congr_right fun member => by
        have isApart := Bool.eq_false_iff.mpr (List.any_eq_false.mp apart operator member)
        rw [startsWith_beforeAngle isApart]

/-- Whether one of some operators comes next in a group. -/
def nextIsOneOfInGroup (operators : List String) : Peek .inGroup :=
  lookInGroup fun tokens => operators.any fun operator => startsWith operator.toList tokens

/-- Whether one of some marks comes next, which may be `>`. Something has to. -/
def nextCloses (marks : List Char) : Peek scope :=
  .ofRun (.nextCloses marks) fun _ => Run.withinAngle_nextCloses

/-- Whether a token comes next of which something holds that holds of no mark. -/
def nextSatisfies (holds : CodeToken → Bool)
    (noMark : ∀ char isJoined, holds (.mark char isJoined) = false := by intros; rfl) :
    Peek scope :=
  look (fun tokens => tokens.head?.any holds) fun _ isJoined tokens => by
    match tokens with
    | [] => exact noMark _ _
    | [token] => cases token <;> simp [lastBeforeAngle, noMark]
    | _ :: _ :: _ => rfl

/-- Whether a word comes next of which something holds. -/
def nextIsWordThat (holds : String → Bool) : Peek scope :=
  nextSatisfies fun
    | .word text => holds text
    | _ => false

def nextIsWord (text : String) : Peek scope :=
  nextIsWordThat (· == text)

/-- Whether one of some words comes next. -/
def nextIsWordOf (texts : List String) : Peek scope :=
  nextIsWordThat texts.contains

def nextIsAnyWord : Peek scope :=
  nextIsWordThat fun _ => true

/-- Whether a word can name something: it is no keyword and not `_`. -/
def isName (text : String) : Bool :=
  text != "_" && !Identifier.keywords.contains text

def nextIsName : Peek scope :=
  nextIsWordThat isName

def nextIsOpening (delimiter : Delimiter) : Peek scope :=
  nextSatisfies (· == .opening delimiter)

/-- Whether a group comes next. -/
def nextIsGroup : Peek scope :=
  nextSatisfies fun
    | .opening _ => true
    | _ => false

/-- Whether nothing is left of a group. -/
def nextIsEnd : Peek .inGroup :=
  lookInGroup List.isEmpty

/-- What `peek` says about the tokens after the next `count`. -/
def later (count : Nat) (peek : Peek scope) : Peek scope where
  run inner := (peek.run inner).later count
  within more := (peek.within more).later
  withinAngle isAnywhere more :=
    (peek.withinAngle isAnywhere more).later (peek.within more.within)

/-! ## Words and marks -/

/-- The next word, whatever it is. -/
def word : Reader scope :=
  .ofRun (.take fun
    | .word _ => some ()
    | _ => none) fun _ => Run.withinAngle_take fun _ _ => rfl

def keyword (text : String) : Reader scope := do
  if ← nextIsWord text then word else refuse

def name : Reader scope := do
  if ← nextIsName then word else refuse

/-- An operator, taken out of a longer one if need be. -/
def operator (text : String)
    (noMinus : (text.toList.getLast? == some '-') = false := by exact Eq.refl false) :
    Reader scope :=
  .ofRun (.operator text.toList (CodeToken.operator text)) fun _ =>
    Run.withinAngle_operator (beq_eq_false_iff_ne.mp noMinus)

/-- An operator in a group. -/
def operatorInGroup (text : String) : Reader .inGroup :=
  .ofRun (.operator text.toList (CodeToken.operator text)) nofun

def nextIsLifetime : Peek scope :=
  look (fun tokens => (splitLifetime tokens).isSome) fun _ _ _ => by
    rw [splitLifetime_beforeAngle, Option.isSome_map]

def lifetime : Reader scope :=
  .ofRun (.taken splitLifetime) fun _ =>
    Run.withinAngle_taken takes_of_splitLifetime splitLifetime_beforeAngle

def nextIsLiteral : Peek scope :=
  look (fun tokens => (splitLiteral tokens).isSome) fun _ _ _ => by
    rw [splitLiteral_beforeAngle, Option.isSome_map]

def literal : Reader scope :=
  .ofRun (.taken splitLiteral) fun _ =>
    Run.withinAngle_taken takes_of_splitLiteral splitLiteral_beforeAngle

/-- A group of any tokens between delimiters, written as they are. -/
def group : Reader scope :=
  .ofRun .group fun _ => Run.withinAngle_group

/-! ## Combining readers -/

/-- Reads only if `next` says so. -/
def readIf (next : Peek scope) (reader : Reader scope) : Reader scope := do
  if ← next then reader

def optionalWord (text : String) : Reader scope :=
  readIf (nextIsWord text) word

/-- Those of some words that stand here, in their order. -/
def optionalWords : List String → Reader scope
  | [] => return
  | text :: rest => do
    optionalWord text
    optionalWords rest

/-- What `first` reads, or what `second` reads in its place if `peek` says so about the tokens after
it. -/
def unlessFollowed (first : Reader scope) (peek : Peek scope) (second : Reader scope) :
    Reader scope where
  run inner := (first.run inner).unlessFollowed (peek.run inner) (second.run inner)
  within more := (first.within more).unlessFollowed (peek.within more) (second.within more)
  withinAngle isAnywhere more := (first.withinAngle isAnywhere more).unlessFollowed
    (peek.withinAngle isAnywhere more) (second.withinAngle isAnywhere more)

/-- What the first reader reads, which nothing stands inside of, or the second where the first
refuses. -/
def firstOf (first second : ReaderOf .inGroup ω α) : ReaderOf .inGroup ω α where
  run inner := (first.run .nothing).orElse (second.run inner)
  within more := (second.within more).orElse
  withinAngle := nofun

/-- What stands between delimiters, all of which has to be read. -/
def between (delimiter : Delimiter) (reader : ReaderOf .inGroup CodeToken α) :
    ReaderOf scope CodeToken α where
  run inner := (reader.run inner).between delimiter
  within more := (reader.within more).between
  withinAngle _ more := Run.WithinAngle.between (reader.within more.within)

/-- Repeats a step from a state on while it says so. -/
def iterate (step : σ → ReaderOf scope ω (ForInStep σ)) (state : σ) : ReaderOf scope ω σ where
  run inner := .iterate (fun state => (step state).run inner) state
  within more := .iterate fun state => (step state).within more
  withinAngle isAnywhere more := .iterate fun state => (step state).withinAngle isAnywhere more

/-- Reads while `next` says so, and tells whether anything has been read. -/
def readAll (next : Peek scope) (reader : Reader scope) : ReaderOf scope CodeToken Bool :=
  iterate (fun hasRead => do
    if ← next then
      reader
      return .yield true
    else return .done hasRead) false

/-- Items with commas between them, and an optional comma after the last, until `isEnd` holds. -/
def itemsUntil (isEnd : Peek scope) (item : Reader scope) : Reader scope :=
  iterate (fun _ => do
    if ← isEnd then return .done ()
    item
    if ← isEnd then return .done ()
    operator ","
    return .yield ()) ()

/-- The items up to the end of a group. -/
def items (item : Reader .inGroup) : Reader .inGroup :=
  itemsUntil nextIsEnd item

/-- A list of items between parentheses. -/
def listInParens (item : Reader .inGroup) : Reader scope :=
  between .parenthesis (items item)

/-- The items between angle brackets. -/
def listInAngles (item : Reader scope) : Reader scope := do
  operator "<"
  itemsUntil (nextCloses ['>']) item
  operator ">"

/-! ## What stands inside a construct -/

namespace Inner

/-- Reads what stands inside a construct. -/
def reader (construct : Construct) (fits : scope = .anywhere → construct.scope = .anywhere) :
    ReaderOf scope CodeToken construct.Value where
  run inner := inner construct
  within more := more construct
  withinAngle isAnywhere more := more.withinAngle construct (fits isAnywhere)

/-- A type, in which `+` may join bounds if the flag says so. -/
def type (allowsPlus : Bool) : ReaderOf scope CodeToken TypeShape :=
  reader (.type allowsPlus) fun _ => rfl

/-- A type of any shape. -/
def typeTokens (allowsPlus : Bool) : Reader scope := do
  let _ ← type allowsPlus

/-- An argument between angle brackets, and whether it is a lifetime. -/
def argument : ReaderOf scope CodeToken Bool :=
  reader .argument fun _ => rfl

def parameter : Reader scope :=
  reader .parameter fun _ => rfl

def expression (allowsStruct : Bool) : Reader .inGroup :=
  reader (.expression allowsStruct) nofun

def statement : ReaderOf .inGroup CodeToken ExpressionShape :=
  reader .statement nofun

def block (allowsAttributes : Bool) : Reader scope :=
  reader (.block allowsAttributes) fun _ => rfl

def pattern : Reader .inGroup :=
  reader .pattern nofun

end Inner

end

end SqlSchema.CodeGrammar
