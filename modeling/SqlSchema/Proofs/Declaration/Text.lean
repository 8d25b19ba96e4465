import SqlSchema.Proofs.Spelling

/-!
Declarations of tables as scripts. All names stand in brackets, so that they may have any
characters; the script of a declaration scans to the lexemes of its parts.
-/

namespace SqlSchema

open Token (ScansTo bracketed)

/-! ## Declarations -/

/-- The arguments of a declared type. -/
inductive TypeArguments where
  | none
  | one (first : UInt32)
  | two (first second : UInt32)
  /-- The length `MAX`. -/
  | maximum
  deriving DecidableEq, Repr

/-- What a declaration says about missing values. -/
inductive NullRule where
  | unspecified
  | null
  | notNull
  deriving DecidableEq, Repr

structure ColumnDeclaration where
  name : String
  type : String
  arguments : TypeArguments
  isIdentity : Bool
  nullRule : NullRule
  deriving DecidableEq, Repr

/-- A table with the key that its last element lists. It has no such element if the key is empty. -/
structure TableDeclaration where
  schema : String
  name : String
  columns : List ColumnDeclaration
  key : List String
  deriving DecidableEq, Repr

/-- What stands between the parentheses of a table, between commas. -/
inductive ElementDeclaration where
  | column (declaration : ColumnDeclaration)
  | key (names : List String)
  deriving DecidableEq, Repr

/-! ## Texts -/

def TypeArguments.text : TypeArguments → String
  | none => ""
  | one first => "(" ++ toString first.toNat ++ ")"
  | two first second => "(" ++ toString first.toNat ++ ", " ++ toString second.toNat ++ ")"
  | maximum => "(MAX)"

def NullRule.text : NullRule → String
  | unspecified => ""
  | null => " NULL"
  | notNull => " NOT NULL"

def ColumnDeclaration.text (column : ColumnDeclaration) : String :=
  bracketed column.name ++ " " ++ bracketed column.type ++ column.arguments.text
    ++ (if column.isIdentity then " IDENTITY" else "") ++ column.nullRule.text

def ElementDeclaration.text : ElementDeclaration → String
  | column declaration => declaration.text
  | key names => "PRIMARY KEY (" ++ ", ".intercalate (names.map bracketed) ++ ")"

def TableDeclaration.elements (table : TableDeclaration) : List ElementDeclaration :=
  table.columns.map .column ++ if table.key.isEmpty then [] else [.key table.key]

/-- The statement that declares the table. -/
def TableDeclaration.script (table : TableDeclaration) : String :=
  "CREATE TABLE " ++ bracketed table.schema ++ "." ++ bracketed table.name ++ " ("
    ++ ", ".intercalate (table.elements.map ElementDeclaration.text) ++ ")"

/-! ## Lexemes -/

/-- Classes and texts of tokens. -/
abbrev Lexemes := List (TokenKind × String)

namespace Lexemes

def quoted (text : String) : TokenKind × String :=
  (.quotedName, bracketed text)

def leftParen : TokenKind × String :=
  (.leftParen, "(")

def rightParen : TokenKind × String :=
  (.rightParen, ")")

def comma : TokenKind × String :=
  (.comma, ",")

def number (value : UInt32) : TokenKind × String :=
  (.integer, toString value.toNat)

/-- Items with commas between them. -/
def separated : List Lexemes → Lexemes
  | [] => []
  | [item] => item
  | item :: next :: items => item ++ comma :: separated (next :: items)

theorem separated_ne_nil {item : Lexemes} (notEmpty : item ≠ []) (items : List Lexemes) :
    separated (item :: items) ≠ [] := by
  cases items with
  | nil => exact notEmpty
  | cons next items => simp [separated]

end Lexemes

open Lexemes

def TypeArguments.lexemes : TypeArguments → Lexemes
  | none => []
  | one first => [leftParen, number first, rightParen]
  | two first second => [leftParen, number first, comma, number second, rightParen]
  | maximum => [leftParen, (.word, "MAX"), rightParen]

def NullRule.lexemes : NullRule → Lexemes
  | unspecified => []
  | null => [(.word, "NULL")]
  | notNull => [(.word, "NOT"), (.word, "NULL")]

def ColumnDeclaration.lexemes (column : ColumnDeclaration) : Lexemes :=
  quoted column.name :: quoted column.type :: (column.arguments.lexemes ++
    ((if column.isIdentity then [(.word, "IDENTITY")] else []) ++ column.nullRule.lexemes))

def ElementDeclaration.lexemes : ElementDeclaration → Lexemes
  | column declaration => declaration.lexemes
  | key names =>
    (.word, "PRIMARY") :: (.word, "KEY") :: leftParen ::
      (separated (names.map fun text => [quoted text]) ++ [rightParen])

def TableDeclaration.lexemes (table : TableDeclaration) : Lexemes :=
  (.word, "CREATE") :: (.word, "TABLE") :: quoted table.schema :: (.dot, ".") ::
    quoted table.name :: leftParen :: (separated (table.elements.map ElementDeclaration.lexemes) ++ [rightParen])

/-! ## Scanning -/

/-- Whether the text goes on with a character that ends names and words. -/
def Separates (more : List Char) : Prop :=
  ∃ stop tail, more = stop :: tail ∧ stop ∈ [' ', ',', '(', ')']

namespace Separates

theorem cons {stop : Char} (member : stop ∈ [' ', ',', '(', ')']) (more : List Char) :
    Separates (stop :: more) :=
  ⟨stop, more, rfl, member⟩

variable {more : List Char} (separates : Separates more)
include separates

theorem arguments (arguments : TypeArguments) : Separates (arguments.text.toList ++ more) := by
  cases arguments with
  | none => exact separates
  | one first =>
    simp only [TypeArguments.text, String.toList_append]
    exact cons (by decide) _
  | two first second =>
    simp only [TypeArguments.text, String.toList_append]
    exact cons (by decide) _
  | maximum => exact cons (by decide) _

theorem identity (isIdentity : Bool) :
    Separates ((if isIdentity then " IDENTITY" else "").toList ++ more) := by
  cases isIdentity with
  | false => exact separates
  | true => exact cons (by decide) _

theorem nullRule (rule : NullRule) : Separates (rule.text.toList ++ more) := by
  cases rule with
  | unspecified => exact separates
  | null | notNull => exact cons (by decide) _

theorem scans_quoted (text : String) : ScansTo [quoted text] (bracketed text).toList more := by
  obtain ⟨stop, tail, rfl, member⟩ := separates
  refine .bracketed text ?_
  rintro equal
  cases equal
  revert member
  decide

theorem scans_word {text : String} (isWord : Token.isBareWord text = true) :
    ScansTo [(.word, text)] text.toList more := by
  obtain ⟨stop, tail, rfl, member⟩ := separates
  have ends : [' ', ',', '(', ')'].all (!Lexeme.isWordPart ·) = true := by decide +kernel
  have notPart : Lexeme.isWordPart stop = false := by
    simpa using List.all_eq_true.mp ends stop member
  have notQuote : '\'' ∉ [' ', ',', '(', ')'] := by decide
  exact .word isWord notPart fun equal => notQuote (equal ▸ member)

end Separates

theorem TypeArguments.scans (arguments : TypeArguments) (more : List Char) :
    ScansTo arguments.lexemes arguments.text.toList more := by
  cases arguments with
  | none => exact .nil
  | one first =>
    have text : (one first).text.toList =
        ['('] ++ ((toString first.toNat).toList ++ [')']) := by
      simp [TypeArguments.text]
    rw [text]
    exact .cons .leftParen (.cons (.integer _ (.inr rfl)) .rightParen)
  | two first second =>
    have text : (two first second).text.toList =
        ['('] ++ ((toString first.toNat).toList ++ ([','] ++
          (' ' :: ((toString second.toNat).toList ++ [')'])))) := by
      simp [TypeArguments.text]
    rw [text]
    have last : ScansTo [number second, rightParen]
        ((toString second.toNat).toList ++ [')']) more :=
      .cons (.integer _ (.inr rfl)) .rightParen
    exact .cons .leftParen (.cons (.integer _ (.inl rfl)) (.cons .comma (last.space (by simp))))
  | maximum =>
    have isWord : Token.isBareWord "MAX" = true := by decide +kernel
    have separates : Separates ([')'] ++ more) := .cons (by decide) more
    exact .cons .leftParen (.cons (separates.scans_word isWord) .rightParen)

section

variable {more : List Char}

theorem NullRule.scans (rule : NullRule) (separates : Separates more) :
    ScansTo rule.lexemes rule.text.toList more := by
  have isNull : Token.isBareWord "NULL" = true := by decide +kernel
  have isNot : Token.isBareWord "NOT" = true := by decide +kernel
  have null : ScansTo [(.word, "NULL")] (' ' :: "NULL".toList) more :=
    (separates.scans_word isNull).space (by simp)
  cases rule with
  | unspecified => exact .nil
  | null => exact null
  | notNull =>
    have gap : Separates (' ' :: "NULL".toList ++ more) := .cons (by decide) _
    exact ((gap.scans_word isNot).cons null).space (by simp)

theorem scans_identity (isIdentity : Bool) (separates : Separates more) :
    ScansTo (if isIdentity then [(.word, "IDENTITY")] else [])
      (if isIdentity then " IDENTITY" else "").toList more := by
  have isWord : Token.isBareWord "IDENTITY" = true := by decide +kernel
  cases isIdentity with
  | false => exact .nil
  | true => exact (separates.scans_word isWord).space (by simp)

theorem ColumnDeclaration.scans (column : ColumnDeclaration) (separates : Separates more) :
    ScansTo column.lexemes column.text.toList more := by
  let identity := (if column.isIdentity then " IDENTITY" else "").toList
  let rule := column.nullRule.text.toList
  have text : column.text.toList = (bracketed column.name).toList ++
      (' ' :: ((bracketed column.type).toList ++
        (column.arguments.text.toList ++ (identity ++ rule)))) := by
    simp [ColumnDeclaration.text, identity, rule]
  have beforeRule : Separates (rule ++ more) := separates.nullRule column.nullRule
  have beforeOptions : Separates (identity ++ rule ++ more) := by
    rw [List.append_assoc]
    exact beforeRule.identity column.isIdentity
  have beforeArguments :
      Separates (column.arguments.text.toList ++ (identity ++ rule) ++ more) := by
    rw [List.append_assoc]
    exact beforeOptions.arguments column.arguments
  have options := (scans_identity column.isIdentity beforeRule).append
    (column.nullRule.scans separates)
  have type := (beforeArguments.scans_quoted column.type).cons
    ((column.arguments.scans _).append options)
  rw [text]
  refine .cons ?_ (type.space (by simp))
  exact (Separates.cons (by decide) _).scans_quoted column.name

/-! ## Lists -/

/-- Items with commas and spaces between them. -/
theorem scans_separated {α : Type} {text : α → String} {lexemes : α → Lexemes} {items : List α}
    (scans : ∀ item ∈ items, lexemes item ≠ [] ∧
      ∀ more, Separates more → ScansTo (lexemes item) (text item).toList more)
    (separates : Separates more) :
    ScansTo (separated (items.map lexemes)) (", ".intercalate (items.map text)).toList more := by
  induction items with
  | nil => exact .nil
  | cons item items induction =>
    obtain ⟨⟨-, first⟩, others⟩ := List.forall_mem_cons.mp scans
    cases items with
    | nil => exact first more separates
    | cons next items =>
      have notEmpty : separated ((next :: items).map lexemes) ≠ [] :=
        separated_ne_nil (others next List.mem_cons_self).1 _
      have textEq : (", ".intercalate ((item :: next :: items).map text)).toList =
          (text item).toList ++ ([','] ++
            (' ' :: (", ".intercalate ((next :: items).map text)).toList)) := by
        simp
      have rest := ScansTo.comma.cons ((induction others).space notEmpty)
      rw [textEq]
      exact (first _ (.cons (by decide) _)).append rest

/-- Items in parentheses, with commas and spaces between them. -/
theorem scans_group {α : Type} {text : α → String} {lexemes : α → Lexemes} {items : List α}
    (scans : ∀ item ∈ items, lexemes item ≠ [] ∧
      ∀ more, Separates more → ScansTo (lexemes item) (text item).toList more)
    (more : List Char) :
    ScansTo (leftParen :: (separated (items.map lexemes) ++ [rightParen]))
      (['('] ++ ((", ".intercalate (items.map text)).toList ++ [')'])) more := by
  have closes : Separates ([')'] ++ more) := .cons (by decide) more
  exact .cons .leftParen ((scans_separated scans closes).append .rightParen)

end

/-! ## Scripts -/

theorem ElementDeclaration.lexemes_ne_nil (element : ElementDeclaration) :
    element.lexemes ≠ [] := by
  cases element <;> simp [ElementDeclaration.lexemes, ColumnDeclaration.lexemes]

theorem ElementDeclaration.scans (element : ElementDeclaration) {more : List Char}
    (separates : Separates more) : ScansTo element.lexemes element.text.toList more := by
  cases element with
  | column declaration => exact declaration.scans separates
  | key names =>
    have isPrimary : Token.isBareWord "PRIMARY" = true := by decide +kernel
    have isKey : Token.isBareWord "KEY" = true := by decide +kernel
    have textEq (columns : String) : ("PRIMARY KEY (" ++ columns ++ ")").toList =
        "PRIMARY".toList ++ (' ' :: ("KEY".toList ++
          (' ' :: (['('] ++ (columns.toList ++ [')']))))) := by
      simp
    have items : ∀ name ∈ names, [quoted name] ≠ [] ∧
        ∀ more, Separates more → ScansTo [quoted name] (bracketed name).toList more :=
      fun name _ => ⟨by simp, fun _ separates => separates.scans_quoted name⟩
    have group := (scans_group items more).space (by simp)
    change ScansTo _ ("PRIMARY KEY (" ++ ", ".intercalate (names.map bracketed) ++ ")").toList more
    rw [textEq]
    refine .cons ?_ (ScansTo.space (.cons ?_ group) (by simp))
    · exact (Separates.cons (by decide) _).scans_word isPrimary
    · exact (Separates.cons (by decide) _).scans_word isKey

/-- A name in two parts. -/
theorem scans_qualified (schema name : String) {more : List Char} (separates : Separates more) :
    ScansTo [quoted schema, (.dot, "."), quoted name]
      ((bracketed schema).toList ++ (['.'] ++ (bracketed name).toList)) more := by
  have noDigit : ((bracketed name).toList ++ more).head?.any Char.isDigit = false := by
    simp [bracketed]
  exact .cons (.bracketed schema (by simp)) (.cons (.dot noDigit) (separates.scans_quoted name))

theorem scans_statement (schema name : String) {body : List Char} {lexemes : Lexemes}
    (scans : ScansTo lexemes body []) (some : lexemes ≠ []) :
    ScansTo ((.word, "CREATE") :: (.word, "TABLE") :: quoted schema :: (.dot, ".") ::
        quoted name :: lexemes)
      ("CREATE".toList ++ (' ' :: ("TABLE".toList ++ (' ' :: ((bracketed schema).toList ++
        (['.'] ++ (bracketed name).toList) ++ (' ' :: body)))))) [] := by
  have isCreate : Token.isBareWord "CREATE" = true := by decide +kernel
  have isTable : Token.isBareWord "TABLE" = true := by decide +kernel
  have label : ScansTo ([quoted schema, (.dot, "."), quoted name] ++ lexemes)
      ((bracketed schema).toList ++ (['.'] ++ (bracketed name).toList) ++ (' ' :: body)) [] :=
    .append (scans_qualified schema name (.cons (by decide) _)) (scans.space some)
  refine .cons ?_ (ScansTo.space (.cons ?_ (label.space (by simp))) (by simp))
  · exact (Separates.cons (by decide) _).scans_word isCreate
  · exact (Separates.cons (by decide) _).scans_word isTable

theorem TableDeclaration.toList_script (table : TableDeclaration) :
    table.script.toList = "CREATE".toList ++ (' ' :: ("TABLE".toList ++ (' ' ::
      ((bracketed table.schema).toList ++ (['.'] ++ (bracketed table.name).toList) ++ (' ' ::
        (['('] ++ ((", ".intercalate (table.elements.map ElementDeclaration.text)).toList ++
          [')']))))))) := by
  unfold TableDeclaration.script
  -- Only the literals are to be spelled out, not the elements.
  generalize ", ".intercalate (table.elements.map ElementDeclaration.text) = body
  simp

theorem TableDeclaration.scans (table : TableDeclaration) :
    ScansTo table.lexemes table.script.toList [] := by
  have items : ∀ element ∈ table.elements, element.lexemes ≠ [] ∧
      ∀ more, Separates more → ScansTo element.lexemes element.text.toList more :=
    fun element _ => ⟨element.lexemes_ne_nil, fun _ separates => element.scans separates⟩
  have statement := scans_statement table.schema table.name (scans_group items [])
    (List.cons_ne_nil _ _)
  exact table.toList_script ▸ statement

/-- The script of a declaration scans to its lexemes. -/
theorem TableDeclaration.exists_scan (table : TableDeclaration) :
    ∃ tokens, Token.scan table.script = .ok tokens ∧ tokens.map Token.lexeme = table.lexemes := by
  obtain ⟨tokens, place, taken, -, lexemes, scanned⟩ := table.scans .origin 0 Nat.zero_lt_one
  have ended : Token.scanFrom place taken [] = ([], none) :=
    Token.scanFrom_of_end (Trivia.split_of_no_splitPiece rfl) place taken
  rw [List.append_nil, ended, List.append_nil] at scanned
  exact ⟨tokens, Grammar.scan_eq_ok.mpr scanned, lexemes⟩

end SqlSchema
