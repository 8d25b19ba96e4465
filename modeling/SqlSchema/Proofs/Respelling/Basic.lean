import SqlSchema.Grammar.Basic
import SqlSchema.Node

/-!
Scripts in another spelling. A respelling writes the characters of a script in another case and puts
its tokens at other places. Readers do not see the difference: what they read from the tokens in
another spelling is what they read from the tokens, in that spelling. This module says what the
spelling of each kind of value is and treats single tokens.
-/

namespace SqlSchema

/-! ## Characters -/

namespace Text

/-- The letters that have another lower-case form. -/
def capitals : List Char := "ABCDEFGHIJKLMNOPQRSTUVWXYZ".toList

theorem toLower_eq_self_or_mem (char : Char) : char.toLower = char ∨ char ∈ capitals := by
  by_cases capital : char.val ≥ 'A'.val ∧ char.val ≤ 'Z'.val
  · have bounds : 65 ≤ char.toNat ∧ char.toNat ≤ 90 := by
      simpa [UInt32.le_iff_toNat_le] using capital
    obtain ⟨index, equal⟩ : ∃ index, char.toNat = 65 + index :=
      Nat.exists_eq_add_of_le bounds.1
    have small : index < 26 := by omega
    have all : ∀ index < 26, Char.ofNat (65 + index) ∈ capitals := by decide
    have member := all index small
    rw [← equal, Char.ofNat_toNat] at member
    exact .inr member
  · exact .inl (dif_neg capital)

/-- What does not tell the capitals from their lower-case forms tells no character from its
lower-case form. -/
theorem congr_toLower {α : Type} (property : Char → α)
    (same : capitals.map (fun char => property char.toLower) = capitals.map property)
    (char : Char) : property char.toLower = property char := by
  rcases toLower_eq_self_or_mem char with equal | member
  · rw [equal]
  · exact List.map_inj_left.mp same char member

theorem toLower_toLower (char : Char) : char.toLower.toLower = char.toLower :=
  congr_toLower Char.toLower (by decide) char

/-- The character, unless it is an ASCII letter. -/
def symbol? (char : Char) : Option Char :=
  if char.isAlpha then none else some char

theorem symbol?_eq_some {mark : Char} (noLetter : mark.isAlpha = false) {char : Char} :
    symbol? char = some mark ↔ char = mark := by
  unfold symbol?
  constructor
  · split <;> simp
  · rintro rfl
    rw [noLetter]
    rfl

end Text

/-! ## Respellings -/

/-- A way to write a script differently: `char` keeps every character up to its case. -/
structure Respelling where
  char : Char → Char
  start : Nat → Nat
  line : Nat → Nat
  toLower_char (letter : Char) : (char letter).toLower = letter.toLower

/-- Values that hold text of a script, and so have another spelling if the script does. -/
class Respellable (α : Type) where
  respell : Respelling → α → α

export Respellable (respell)

namespace Respelling

variable (spelling : Respelling)

/-- What does not tell capitals from small letters does not see a respelling. -/
theorem congr_char {α : Type} (property : Char → α)
    (same : Text.capitals.map (fun char => property char.toLower) = Text.capitals.map property)
    (char : Char) : property (spelling.char char) = property char := by
  rw [← Text.congr_toLower property same, spelling.toLower_char, Text.congr_toLower property same]

theorem symbol?_char (char : Char) : Text.symbol? (spelling.char char) = Text.symbol? char :=
  spelling.congr_char Text.symbol? (by decide) char

/-- A character that is no letter has one spelling. -/
theorem char_eq_iff {mark : Char} (noLetter : mark.isAlpha = false) {char : Char} :
    spelling.char char = mark ↔ char = mark := by
  rw [← Text.symbol?_eq_some noLetter, symbol?_char, Text.symbol?_eq_some noLetter]

theorem char_eq_self {mark : Char} (noLetter : mark.isAlpha = false) : spelling.char mark = mark :=
  (spelling.char_eq_iff noLetter).mpr rfl

@[simp] theorem isDigit_char (char : Char) : (spelling.char char).isDigit = char.isDigit :=
  spelling.congr_char _ (by decide) char

/-- Digits have one spelling. -/
theorem char_of_isDigit {char : Char} (isDigit : char.isDigit = true) :
    spelling.char char = char := by
  let digit? (char : Char) : Option Char := if char.isDigit then some char else none
  have same : digit? (spelling.char char) = digit? char :=
    spelling.congr_char digit? (by decide) char
  simpa [digit?, isDigit] using same

/-! ### Kinds of values -/

instance : Respellable Char := ⟨Respelling.char⟩

instance : Respellable String :=
  ⟨fun spelling text => String.ofList (text.toList.map spelling.char)⟩

instance {α : Type} [Respellable α] : Respellable (Option α) :=
  ⟨fun spelling => Option.map (respell spelling)⟩

instance {α : Type} [Respellable α] : Respellable (List α) :=
  ⟨fun spelling => List.map (respell spelling)⟩

instance {α β : Type} [Respellable α] [Respellable β] : Respellable (α × β) :=
  ⟨fun spelling => Prod.map (respell spelling) (respell spelling)⟩

instance : Respellable Token where
  respell spelling token :=
    { token with
      text := respell spelling token.text
      lead := respell spelling token.lead
      start := spelling.start token.start
      line := spelling.line token.line }

instance : Respellable Grammar.Refusal where
  respell spelling refusal := { refusal with found := respell spelling refusal.found }

instance {α : Type} [Respellable α] : Respellable (Except Grammar.Refusal α) where
  respell spelling result :=
    match result with
    | .ok value => .ok (respell spelling value)
    | .error refusal => .error (respell spelling refusal)

instance : Respellable DataType where
  respell spelling type :=
    { type with
      schema? := respell spelling type.schema?
      name := respell spelling type.name
      sql := respell spelling type.sql }

end Respelling

mutual

/-- The node in another spelling. -/
def Node.respelled (spelling : Respelling) : Node → Node
  | .column children sql => .column (respelledNodes spelling children) (respell spelling sql)
  | .computedColumn children sql =>
    .computedColumn (respelledNodes spelling children) (respell spelling sql)
  | .primaryKey children sql =>
    .primaryKey (respelledNodes spelling children) (respell spelling sql)
  | .constraint kind sql => .constraint kind (respell spelling sql)
  | .identifier value sql => .identifier (respell spelling value) (respell spelling sql)
  | .dataType type => .dataType (respell spelling type)
  | .identity sql => .identity (respell spelling sql)
  | .collation sql => .collation (respell spelling sql)
  | .indexedColumn name sql => .indexedColumn (respell spelling name) (respell spelling sql)
  | .indexOption sql => .indexOption (respell spelling sql)
  | .caseExpression operand clauses otherwise sql =>
    .caseExpression (respelledNode? spelling operand) (respelledClauses spelling clauses)
      (respelledNode? spelling otherwise) (respell spelling sql)
  | .call function arguments sql =>
    .call (respell spelling function) (respelledNodes spelling arguments) (respell spelling sql)
  | .columnRef name sql => .columnRef (respell spelling name) (respell spelling sql)
  | .literal kind value sql => .literal kind (respell spelling value) (respell spelling sql)
  | .unknown typeName sql => .unknown typeName (respell spelling sql)

/-- The clause in another spelling. -/
def WhenClause.respelled (spelling : Respelling) : WhenClause → WhenClause
  | .mk condition result sql =>
    .mk (condition.respelled spelling) (result.respelled spelling) (respell spelling sql)

def respelledNodes (spelling : Respelling) : List Node → List Node
  | [] => []
  | node :: nodes => node.respelled spelling :: respelledNodes spelling nodes

def respelledNode? (spelling : Respelling) : Option Node → Option Node
  | none => none
  | some node => some (node.respelled spelling)

def respelledClauses (spelling : Respelling) : List WhenClause → List WhenClause
  | [] => []
  | clause :: clauses => clause.respelled spelling :: respelledClauses spelling clauses

end

namespace Respelling

instance : Respellable Node := ⟨Node.respelled⟩

instance : Respellable WhenClause := ⟨WhenClause.respelled⟩

instance : Respellable TableDefinition where
  respell spelling definition :=
    { children := respell spelling definition.children
      sql := respell spelling definition.sql }

instance : Respellable CreateTable where
  respell spelling statement :=
    { schema := respell spelling statement.schema
      name := respell spelling statement.name
      sql := respell spelling statement.sql
      definition := respell spelling statement.definition }

instance : Respellable Statement where
  respell spelling
    | .createTable statement => .createTable (respell spelling statement)
    | .other sql => .other (respell spelling sql)

variable {α β : Type} [Respellable α] [Respellable β] (spelling : Respelling)

/-! ### Options, lists and pairs -/

@[simp] theorem respell_char (char : Char) : respell spelling char = spelling.char char :=
  rfl

@[simp] theorem respell_none : respell spelling (none : Option α) = none :=
  rfl

@[simp] theorem respell_some (value : α) :
    respell spelling (some value) = some (respell spelling value) :=
  rfl

@[simp] theorem respell_nil : respell spelling ([] : List α) = [] :=
  rfl

@[simp] theorem respell_cons (value : α) (values : List α) :
    respell spelling (value :: values) = respell spelling value :: respell spelling values :=
  rfl

@[simp] theorem respell_mk (left : α) (right : β) :
    respell spelling (left, right) = (respell spelling left, respell spelling right) :=
  rfl

@[simp] theorem respell_append (left right : List α) :
    respell spelling (left ++ right) = respell spelling left ++ respell spelling right :=
  List.map_append

@[simp] theorem drop_respell (count : Nat) (values : List α) :
    (respell spelling values).drop count = respell spelling (values.drop count) :=
  List.map_drop.symm

@[simp] theorem take_respell (count : Nat) (values : List α) :
    (respell spelling values).take count = respell spelling (values.take count) :=
  List.map_take.symm

@[simp] theorem getLast?_respell (values : List α) :
    (respell spelling values).getLast? = respell spelling values.getLast? :=
  List.getLast?_map

/-! ### Texts -/

theorem head?_respell_eq_iff {mark : Char} (noLetter : mark.isAlpha = false) (chars : List Char) :
    (respell spelling chars).head? = some mark ↔ chars.head? = some mark := by
  cases chars with
  | nil => rfl
  | cons char chars => simp [spelling.char_eq_iff noLetter]

theorem chars_respell (text : String) :
    (respell spelling text).toList = text.toList.map spelling.char :=
  String.toList_ofList

@[simp] theorem respell_appendText (left right : String) :
    respell spelling (left ++ right) = respell spelling left ++ respell spelling right := by
  apply String.toList_injective
  simp [chars_respell]

theorem respell_join (texts : List String) :
    respell spelling (String.join texts) = String.join (respell spelling texts) := by
  induction texts with
  | nil => rfl
  | cons text texts induction =>
    rw [respell_cons, String.join_cons, String.join_cons, respell_appendText, induction]

theorem lowerCase_respell (text : String) :
    Text.lowerCase (respell spelling text) = Text.lowerCase text := by
  simp [Text.lowerCase, chars_respell, Function.comp_def, spelling.toLower_char]

@[simp] theorem equalIgnoringCase_respell (text other : String) :
    Text.equalIgnoringCase (respell spelling text) other = Text.equalIgnoringCase text other := by
  simp [Text.equalIgnoringCase, chars_respell, Function.comp_def, spelling.toLower_char]

@[simp] theorem upperCaseIs_respell (name word : String) :
    Text.upperCaseIs (respell spelling name) word = Text.upperCaseIs name word := by
  have same (char : Char) : Text.upperForm (spelling.char char) = Text.upperForm char :=
    spelling.congr_char _ (by decide) char
  simp only [Text.upperCaseIs, chars_respell, List.flatMap_map, same]

/-- A text without letters has one spelling. -/
theorem respell_eq_iff {mark : String} (noLetters : mark.toList.any Char.isAlpha = false)
    {text : String} : respell spelling text = mark ↔ text = mark := by
  rw [← String.toList_inj, ← String.toList_inj, chars_respell]
  generalize mark.toList = marks at noLetters
  induction text.toList generalizing marks with
  | nil => cases marks <;> simp
  | cons char chars induction =>
    cases marks with
    | nil => simp
    | cons other others =>
      rw [List.any_cons, Bool.or_eq_false_iff] at noLetters
      simp [spelling.char_eq_iff noLetters.1, induction others noLetters.2]

@[simp] theorem isEmptyText_respell (text : String) :
    (respell spelling text).isEmpty = text.isEmpty := by
  rw [Bool.eq_iff_iff, String.isEmpty_iff, String.isEmpty_iff]
  exact spelling.respell_eq_iff (by simp)

end Respelling

/-! ## Tokens -/

namespace Text

/-- Doubled delimiters have the same places in every spelling. -/
theorem undouble_map_char (spelling : Respelling) {close : Char}
    (noLetter : close.isAlpha = false) (chars : List Char) :
    undouble close (chars.map spelling.char) = (undouble close chars).map spelling.char := by
  fun_induction undouble close chars with
  | case1 first second rest isDouble induction =>
    obtain ⟨rfl, rfl⟩ := isDouble
    simp [undouble, spelling.char_eq_self noLetter, induction]
  | case2 first second rest notDouble induction =>
    have notDouble' : ¬(spelling.char first = close ∧ spelling.char second = close) := by
      rwa [spelling.char_eq_iff noLetter, spelling.char_eq_iff noLetter]
    simpa [undouble, notDouble'] using induction
  | case3 chars short =>
    cases chars with
    | nil => rfl
    | cons first chars =>
      cases chars with
      | nil => rfl
      | cons second rest => exact absurd rfl (short first second rest)

end Text

namespace Token

variable (spelling : Respelling) (token : Token) (tokens rest : List Token)

@[simp] theorem kind_respell : (respell spelling token).kind = token.kind :=
  rfl

@[simp] theorem text_respell : (respell spelling token).text = respell spelling token.text :=
  rfl

@[simp] theorem lead_respell : (respell spelling token).lead = respell spelling token.lead :=
  rfl

@[simp] theorem opensLine_respell : (respell spelling token).opensLine = token.opensLine :=
  rfl

theorem content_map_char {close : Char} (noLetter : close.isAlpha = false) (chars : List Char) :
    content close (chars.map spelling.char) = respell spelling (content close chars) := by
  apply String.toList_injective
  rw [Respelling.chars_respell, content, content, ← List.map_drop, ← List.map_dropLast,
    Text.undouble_map_char spelling noLetter, String.toList_ofList, String.toList_ofList]

/-- The name of a token through its first character. -/
theorem name_eq :
    token.name =
      if token.kind = .quotedName then
        if token.text.toList.head? = some '[' then content ']' token.text.toList
        else content '"' token.text.toList
      else token.text := by
  unfold name
  split
  · rename_i kind chars
    simp [kind, chars]
  · rename_i kind notBracket
    have different : token.text.toList.head? ≠ some '[' := by
      intro bracket
      obtain ⟨tail, equal⟩ := List.head?_eq_some_iff.mp bracket
      exact notBracket tail equal
    rw [if_pos kind, if_neg different]
  · rename_i notQuoted _
    rw [if_neg notQuoted]

@[simp] theorem name_respell : (respell spelling token).name = respell spelling token.name := by
  have bracket : (token.text.toList.map spelling.char).head? = some '[' ↔
      token.text.toList.head? = some '[' :=
    spelling.head?_respell_eq_iff rfl token.text.toList
  rw [name_eq, name_eq, kind_respell, text_respell, Respelling.chars_respell]
  simp only [bracket]
  split
  · split
    · exact content_map_char spelling rfl _
    · exact content_map_char spelling rfl _
  · rfl

@[simp] theorem literalValue_respell :
    (respell spelling token).literalValue = respell spelling token.literalValue := by
  unfold literalValue
  rw [kind_respell, text_respell, Respelling.chars_respell, ← List.map_drop]
  cases token.kind with
  | string => exact content_map_char spelling rfl _
  | unicodeString => exact content_map_char spelling rfl _
  | _ => rfl

/-! ### Texts of runs -/

theorem written_respell :
    written (respell spelling tokens) = respell spelling (written tokens) := by
  rw [written, written, Respelling.respell_join]
  congr 1
  change (tokens.map (respell spelling)).map _ = (tokens.map _).map (respell spelling)
  rw [List.map_map, List.map_map]
  congr 1
  funext token
  simp

theorem textOf_respell : textOf (respell spelling tokens) = respell spelling (textOf tokens) := by
  cases tokens with
  | nil => rfl
  | cons first rest => simp [textOf, written_respell]

end Token

/-! ## Nodes -/

namespace Respelling

variable (spelling : Respelling)

theorem respelledNodes_eq (nodes : List Node) :
    respelledNodes spelling nodes = respell spelling nodes := by
  induction nodes with
  | nil => rfl
  | cons node nodes induction => rw [respelledNodes, induction]; rfl

end Respelling

end SqlSchema
