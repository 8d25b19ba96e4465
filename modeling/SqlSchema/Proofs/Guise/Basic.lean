import Mathlib.Data.List.Forall2
import Mathlib.Data.Option.Basic
import SqlSchema.Grammar.DataType

/-!
Scripts in another guise. A guise keeps of every token what readers look at: its class, whether it
opens a line, and its text as far as keywords and symbols go. So readers take the same steps in the
guise, and what they read has the same shape there. The texts that nodes keep are only compared, as
nothing is decided by them.
-/

namespace SqlSchema

/-! ## Results side by side -/

/-- Whether both results are values or both are errors, with the given relations between them. -/
inductive SameOutcome {α ε : Type} (values : α → α → Prop) (errors : ε → ε → Prop) :
    Except ε α → Except ε α → Prop
  | ok {left right : α} (related : values left right) :
    SameOutcome values errors (.ok left) (.ok right)
  | error {left right : ε} (related : errors left right) :
    SameOutcome values errors (.error left) (.error right)

namespace SameOutcome

variable {α β ε : Type} {values values' : α → α → Prop} {errors : ε → ε → Prop}
  {left right : Except ε α}

theorem imp (outcome : SameOutcome values errors left right)
    (weaker : ∀ left right, values left right → values' left right) :
    SameOutcome values' errors left right := by
  cases outcome with
  | ok related => exact .ok (weaker _ _ related)
  | error related => exact .error related

theorem imp_error {errors' : ε → ε → Prop} (outcome : SameOutcome values errors left right)
    (weaker : ∀ left right, errors left right → errors' left right) :
    SameOutcome values errors' left right := by
  cases outcome with
  | ok related => exact .ok related
  | error related => exact .error (weaker _ _ related)

theorem map {values' : β → β → Prop} {convert convert' : α → β}
    (outcome : SameOutcome values errors left right)
    (kept : ∀ left right, values left right → values' (convert left) (convert' right)) :
    SameOutcome values' errors (left.map convert) (right.map convert') := by
  cases outcome with
  | ok related => exact .ok (kept _ _ related)
  | error related => exact .error related

theorem mapError {ε' : Type} {errors' : ε' → ε' → Prop} {convert convert' : ε → ε'}
    (outcome : SameOutcome values errors left right)
    (kept : ∀ left right, errors left right → errors' (convert left) (convert' right)) :
    SameOutcome values errors' (left.mapError convert) (right.mapError convert') := by
  cases outcome with
  | ok related => exact .ok related
  | error related => exact .error (kept _ _ related)

/-- What is done with related values has related results. -/
theorem bind {values' : β → β → Prop} {next next' : α → Except ε β}
    (outcome : SameOutcome values errors left right)
    (same : ∀ first second, left = .ok first → values first second →
      SameOutcome values' errors (next first) (next' second)) :
    SameOutcome values' errors (left >>= next) (right >>= next') := by
  cases outcome with
  | ok related => exact same _ _ rfl related
  | error related => exact .error related

/-- Two results that are each related to a third. -/
theorem join {middle : Except ε α} (first : SameOutcome values errors left middle)
    (second : SameOutcome values errors right middle) :
    SameOutcome (fun left right => ∃ middle, values left middle ∧ values right middle)
      (fun left right => ∃ middle, errors left middle ∧ errors right middle) left right := by
  cases first with
  | ok related =>
    cases second with
    | ok related' => exact .ok ⟨_, related, related'⟩
  | error related =>
    cases second with
    | error related' => exact .error ⟨_, related, related'⟩

end SameOutcome

/-- Lists that a function makes equal have items that it makes equal. -/
theorem forall₂_of_map_eq {α β : Type} {convert : α → β} {left right : List α}
    (same : left.map convert = right.map convert) :
    List.Forall₂ (fun first second => convert first = convert second) left right := by
  have equal : List.Forall₂ (fun first second => first = second) (left.map convert)
      (right.map convert) := by
    rwa [List.forall₂_eq_eq_eq]
  exact List.forall₂_map_right_iff.mp (List.forall₂_map_left_iff.mp equal)

/-! ## Guises -/

/-- A form that scripts can take without a difference to readers. -/
structure Guise where
  /-- A token in the guise. -/
  token : Token → Token
  /-- A name or the value of a literal in the guise. -/
  text : String → String
  /-- Whether the second of two texts of tokens can be what the first is in the guise. -/
  Shows : String → String → Prop
  kind_token (original : Token) : (token original).kind = original.kind
  opensLine_token (original : Token) : (token original).opensLine = original.opensLine
  text_token (original : Token) : (token original).text = text original.text
  name_token (original : Token) : (token original).name = text original.name
  literalValue_token (original : Token) :
    (token original).literalValue = text original.literalValue
  equalIgnoringCase_text (original other : String) :
    Text.equalIgnoringCase (text original) other = Text.equalIgnoringCase original other
  upperCaseIs_text (original word : String) :
    Text.upperCaseIs (text original) word = Text.upperCaseIs original word
  readUInt32?_text (original : String) :
    Grammar.readUInt32? (text original) = Grammar.readUInt32? original
  text_eq_iff {symbol : String} (noLetters : symbol.toList.any Char.isAlpha = false)
    {original : String} : text original = symbol ↔ original = symbol
  shows_text (original : String) : Shows original (text original)
  shows_textOf (originals : List Token) :
    Shows (Token.textOf originals) (Token.textOf (originals.map token))

/-- The guise in which tokens keep their class, their text and whether they open a line, and change
in nothing that readers look at. -/
def Guise.ofTokens (token : Token → Token)
    (kind_token : ∀ original, (token original).kind = original.kind)
    (opensLine_token : ∀ original, (token original).opensLine = original.opensLine)
    (text_token : ∀ original, (token original).text = original.text) : Guise where
  token := token
  text := id
  Shows _ _ := True
  kind_token := kind_token
  opensLine_token := opensLine_token
  text_token := text_token
  name_token original := by simp only [Token.name, kind_token, text_token, id]
  literalValue_token original := by simp only [Token.literalValue, kind_token, text_token, id]
  equalIgnoringCase_text _ _ := rfl
  upperCaseIs_text _ _ := rfl
  readUInt32?_text _ := rfl
  text_eq_iff _ _ := Iff.rfl
  shows_text _ := trivial
  shows_textOf _ := trivial

/-- Values that consist of names and tokens, and so have a form in every guise. -/
class Guised (α : Type) where
  see : Guise → α → α

export Guised (see)

namespace Guise

instance : Guised Bool := ⟨fun _ => id⟩

instance : Guised UInt32 := ⟨fun _ => id⟩

instance : Guised String := ⟨Guise.text⟩

instance : Guised Token := ⟨Guise.token⟩

instance {α : Type} [Guised α] : Guised (Option α) :=
  ⟨fun guise => Option.map (see guise)⟩

instance {α : Type} [Guised α] : Guised (List α) :=
  ⟨fun guise => List.map (see guise)⟩

instance {α β : Type} [Guised α] [Guised β] : Guised (α × β) :=
  ⟨fun guise => Prod.map (see guise) (see guise)⟩

instance : Guised Grammar.Refusal where
  see guise refusal := { refusal with found := see guise refusal.found }

instance {α : Type} [Guised α] : Guised (Except Grammar.Refusal α) where
  see guise result :=
    match result with
    | .ok value => .ok (see guise value)
    | .error refusal => .error (see guise refusal)

variable {α β : Type} [Guised α] [Guised β] (guise : Guise)

/-! ### Options, lists and pairs -/

@[simp] theorem see_bool (value : Bool) : see guise value = value :=
  rfl

@[simp] theorem see_numbers (numbers : List UInt32) : see guise numbers = numbers :=
  List.map_id numbers

@[simp] theorem see_none : see guise (none : Option α) = none :=
  rfl

@[simp] theorem see_some (value : α) : see guise (some value) = some (see guise value) :=
  rfl

@[simp] theorem see_nil : see guise ([] : List α) = [] :=
  rfl

@[simp] theorem see_cons (value : α) (values : List α) :
    see guise (value :: values) = see guise value :: see guise values :=
  rfl

@[simp] theorem see_mk (left : α) (right : β) :
    see guise (left, right) = (see guise left, see guise right) :=
  rfl

@[simp] theorem length_see (values : List α) : (see guise values).length = values.length :=
  List.length_map _

@[simp] theorem isEmpty_see (values : List α) : (see guise values).isEmpty = values.isEmpty :=
  List.isEmpty_map

@[simp] theorem tail_see (values : List α) : (see guise values).tail = see guise values.tail :=
  List.map_tail.symm

@[simp] theorem drop_see (count : Nat) (values : List α) :
    (see guise values).drop count = see guise (values.drop count) :=
  List.map_drop.symm

@[simp] theorem take_see (count : Nat) (values : List α) :
    (see guise values).take count = see guise (values.take count) :=
  List.map_take.symm

@[simp] theorem head?_see (values : List α) : (see guise values).head? = see guise values.head? :=
  List.head?_map

@[simp] theorem dropLast_see (values : List α) :
    (see guise values).dropLast = see guise values.dropLast :=
  List.map_dropLast.symm

@[simp] theorem getLast?_see (values : List α) :
    (see guise values).getLast? = see guise values.getLast? :=
  List.getLast?_map

theorem getLast_see {values : List α} (some : values ≠ []) (some' : see guise values ≠ []) :
    (see guise values).getLast some' = see guise (values.getLast some) :=
  List.getLast_map some'

/-! ### Texts -/

@[simp] theorem equalIgnoringCase_see (text other : String) :
    Text.equalIgnoringCase (see guise text) other = Text.equalIgnoringCase text other :=
  guise.equalIgnoringCase_text text other

@[simp] theorem upperCaseIs_see (text word : String) :
    Text.upperCaseIs (see guise text) word = Text.upperCaseIs text word :=
  guise.upperCaseIs_text text word

theorem see_eq_iff {symbol : String} (noLetters : symbol.toList.any Char.isAlpha = false)
    {text : String} : see guise text = symbol ↔ text = symbol :=
  guise.text_eq_iff noLetters

@[simp] theorem see_empty : see guise "" = "" :=
  (guise.see_eq_iff (by decide)).mpr rfl

@[simp] theorem isEmptyText_see (text : String) : (see guise text).isEmpty = text.isEmpty := by
  rw [Bool.eq_iff_iff, String.isEmpty_iff, String.isEmpty_iff]
  exact guise.see_eq_iff (by decide)

end Guise

/-! ## Tokens -/

namespace Token

variable (guise : Guise) (token : Token) (tokens rest : List Token)

@[simp] theorem kind_see : (see guise token).kind = token.kind :=
  guise.kind_token token

@[simp] theorem text_see : (see guise token).text = see guise token.text :=
  guise.text_token token

@[simp] theorem name_see : (see guise token).name = see guise token.name :=
  guise.name_token token

@[simp] theorem literalValue_see : (see guise token).literalValue = see guise token.literalValue :=
  guise.literalValue_token token

@[simp] theorem opensLine_see : (see guise token).opensLine = token.opensLine :=
  guise.opensLine_token token

@[simp] theorem isWord_see (keyword : String) :
    (see guise token).isWord keyword = token.isWord keyword := by
  simp [isWord]

@[simp] theorem isWordIn_see (keywords : List String) :
    (see guise token).isWordIn keywords = token.isWordIn keywords := by
  have same : (see guise token).isWord = token.isWord := funext (isWord_see guise token)
  rw [isWordIn, isWordIn, same]

@[simp] theorem isName_see : (see guise token).isName = token.isName := by
  simp [isName]

@[simp] theorem endsBatch_see : (see guise token).endsBatch = token.endsBatch := by
  simp [endsBatch]

theorem shows_textTo :
    guise.Shows (textTo tokens rest) (textTo (see guise tokens) (see guise rest)) := by
  have run : run (see guise tokens) (see guise rest) = see guise (run tokens rest) := by
    simp [run]
  rw [textTo, textTo, run]
  exact guise.shows_textOf _

end Token

/-! ## Trees -/

variable (guise : Guise)

/-- Whether the second data type can be what the first is in the guise. -/
structure DataType.Resembles (first second : DataType) : Prop where
  schema : second.schema? = see guise first.schema?
  name : second.name = see guise first.name
  argument1 : second.argument1 = first.argument1
  argument2 : second.argument2 = first.argument2
  isMaximum : second.isMaximum = first.isMaximum
  sql : guise.Shows first.sql second.sql

mutual

/-- Whether the second node can be what the first is in the guise. -/
inductive Node.Resembles : Node → Node → Prop
  | column {children children' : List Node} {sql sql' : String}
    (same : List.Forall₂ Node.Resembles children children') (shown : guise.Shows sql sql') :
    Node.Resembles (.column children sql) (.column children' sql')
  | computedColumn {children children' : List Node} {sql sql' : String}
    (same : List.Forall₂ Node.Resembles children children') (shown : guise.Shows sql sql') :
    Node.Resembles (.computedColumn children sql) (.computedColumn children' sql')
  | primaryKey {children children' : List Node} {sql sql' : String}
    (same : List.Forall₂ Node.Resembles children children') (shown : guise.Shows sql sql') :
    Node.Resembles (.primaryKey children sql) (.primaryKey children' sql')
  | constraint (kind : ConstraintKind) {sql sql' : String} (shown : guise.Shows sql sql') :
    Node.Resembles (.constraint kind sql) (.constraint kind sql')
  | identifier (value : String) {sql sql' : String} (shown : guise.Shows sql sql') :
    Node.Resembles (.identifier value sql) (.identifier (see guise value) sql')
  | dataType {type type' : DataType} (same : type.Resembles guise type') :
    Node.Resembles (.dataType type) (.dataType type')
  | identity {sql sql' : String} (shown : guise.Shows sql sql') :
    Node.Resembles (.identity sql) (.identity sql')
  | collation {sql sql' : String} (shown : guise.Shows sql sql') :
    Node.Resembles (.collation sql) (.collation sql')
  | indexedColumn (name : String) {sql sql' : String} (shown : guise.Shows sql sql') :
    Node.Resembles (.indexedColumn name sql) (.indexedColumn (see guise name) sql')
  | indexOption {sql sql' : String} (shown : guise.Shows sql sql') :
    Node.Resembles (.indexOption sql) (.indexOption sql')
  | caseExpression {operand operand' otherwise otherwise' : Option Node}
    {clauses clauses' : List WhenClause} {sql sql' : String}
    (sameOperand : Option.Rel Node.Resembles operand operand')
    (sameClauses : List.Forall₂ WhenClause.Resembles clauses clauses')
    (sameOtherwise : Option.Rel Node.Resembles otherwise otherwise')
    (shown : guise.Shows sql sql') :
    Node.Resembles (.caseExpression operand clauses otherwise sql)
      (.caseExpression operand' clauses' otherwise' sql')
  | call (function : String) {arguments arguments' : List Node} {sql sql' : String}
    (same : List.Forall₂ Node.Resembles arguments arguments') (shown : guise.Shows sql sql') :
    Node.Resembles (.call function arguments sql) (.call (see guise function) arguments' sql')
  | columnRef (name : String) {sql sql' : String} (shown : guise.Shows sql sql') :
    Node.Resembles (.columnRef name sql) (.columnRef (see guise name) sql')
  | literal (kind : LiteralKind) (value : String) {sql sql' : String}
    (shown : guise.Shows sql sql') :
    Node.Resembles (.literal kind value sql) (.literal kind (see guise value) sql')
  | unknown (typeName : String) {sql sql' : String} (shown : guise.Shows sql sql') :
    Node.Resembles (.unknown typeName sql) (.unknown typeName sql')

/-- Whether the second clause can be what the first is in the guise. -/
inductive WhenClause.Resembles : WhenClause → WhenClause → Prop
  | mk {condition condition' result result' : Node} {sql sql' : String}
    (sameCondition : Node.Resembles condition condition')
    (sameResult : Node.Resembles result result') (shown : guise.Shows sql sql') :
    WhenClause.Resembles (.mk condition result sql) (.mk condition' result' sql')

end

/-- Whether the second table can be what the first is in the guise. -/
structure TableDefinition.Resembles (first second : TableDefinition) : Prop where
  children : List.Forall₂ (Node.Resembles guise) first.children second.children
  sql : guise.Shows first.sql second.sql

/-- Whether the second statement can be what the first is in the guise. -/
structure CreateTable.Resembles (first second : CreateTable) : Prop where
  schema : second.schema = see guise first.schema
  name : second.name = see guise first.name
  sql : guise.Shows first.sql second.sql
  definition : first.definition.Resembles guise second.definition

/-- Whether the second statement can be what the first is in the guise. -/
inductive Statement.Resembles : Statement → Statement → Prop
  | createTable {first second : CreateTable} (same : first.Resembles guise second) :
    Statement.Resembles (.createTable first) (.createTable second)
  | other {first second : String} (shown : guise.Shows first second) :
    Statement.Resembles (.other first) (.other second)

/-- Whether the statements of both scripts resemble the same statements. -/
def Guise.Alike (first second : List Statement) : Prop :=
  ∃ middle, List.Forall₂ (Statement.Resembles guise) first middle ∧
    List.Forall₂ (Statement.Resembles guise) second middle

end SqlSchema
