import Mathlib.Data.List.Forall2
import SqlSchema.Proofs.Declaration.Text
import SqlSchema.Proofs.Parallel.Element

/-!
Declarations of columns as nodes. The lexemes of a column are read as the node that declares the
same, and what follows them is left to be read.
-/

namespace SqlSchema

open Lexemes
open Token (lexeme)

/-! ## What is read -/

/-- The lengths among the arguments. -/
def TypeArguments.numbers : TypeArguments → List UInt32
  | none => []
  | one first => [first]
  | two first second => [first, second]
  | maximum => []

/-- The constraint that a rule is. -/
def NullRule.constraint : NullRule → ConstraintKind
  | unspecified => .none
  | null => .null
  | notNull => .notNull

theorem NullRule.areWords (rule : NullRule) : ∀ part ∈ rule.lexemes, part.1 = .word := by
  cases rule <;> simp [lexemes]

namespace ColumnDeclaration

/-- The type of the column, read from the text `sql`. -/
def dataType (column : ColumnDeclaration) (sql : String) : DataType where
  schema? := none
  name := column.type
  argument1 := column.arguments.numbers[0]?
  argument2 := column.arguments.numbers[1]?
  isMaximum := column.arguments == .maximum
  sql

/-- The options of the column, read from these texts. -/
def options (column : ColumnDeclaration) (identitySql ruleSql : String) : List Node :=
  (if column.isIdentity then [.identity identitySql] else []) ++
    if column.nullRule = .unspecified then [] else [.constraint column.nullRule.constraint ruleSql]

end ColumnDeclaration

/-- Whether a node is the column `name` of a key. -/
abbrev Node.IsKeyColumn (name : String) (node : Node) : Prop :=
  ∃ sql, node = .indexedColumn name sql

/-- The nodes that an element of a table is read as. -/
inductive ElementDeclaration.IsReadAs : ElementDeclaration → Node → Prop
  | column (column : ColumnDeclaration) (nameSql typeSql identitySql ruleSql sql : String) :
    IsReadAs (.column column)
      (.column (.identifier column.name nameSql :: .dataType (column.dataType typeSql) ::
        column.options identitySql ruleSql) sql)
  | key {names : List String} {children : List Node} (sql : String)
    (listed : List.Forall₂ Node.IsKeyColumn names children) :
    IsReadAs (.key names) (.primaryKey children sql)

namespace Token

variable {token : Token} {text : String}

theorem isWord_of_quoted (isLexeme : token.lexeme = quoted text) (keyword : String) :
    token.isWord keyword = false := by
  rw [isWord, kind_of_lexeme isLexeme]
  rfl

theorem isWordIn_of_quoted (isLexeme : token.lexeme = quoted text) (keywords : List String) :
    token.isWordIn keywords = false := by
  simp [isWordIn, isWord_of_quoted isLexeme]

end Token

namespace Grammar

variable {token : Token} {text : String} {rest others : List Token}

/-! ## Names -/

theorem name_of_quoted (isLexeme : token.lexeme = quoted text) :
    name (token :: rest) = .ok (text, rest) := by
  rw [name, if_pos (Token.isName_of_lexeme_bracketed isLexeme),
    Token.name_of_lexeme_bracketed isLexeme]

theorem identifier_of_quoted (isLexeme : token.lexeme = quoted text) (rest : List Token) :
    ∃ sql, identifier (token :: rest) = .ok (.identifier text sql, rest) :=
  ⟨_, bind_eq_ok.mpr ⟨_, name_of_quoted isLexeme, rfl⟩⟩

theorem atElementEnd_of_kind (notComma : token.kind ≠ .comma)
    (notParen : token.kind ≠ .rightParen) : atElementEnd (token :: rest) = false := by
  simp [atElementEnd, nextIs_cons, notComma, notParen]

/-! ## Types -/

/-- A number that is written out and read again. -/
theorem readUInt32?_toString (value : UInt32) :
    readUInt32? (toString value.toNat) = some value := by
  have digits : (toString value.toNat).toList = Nat.toDigits 10 value.toNat := by simp
  have areDigits : (toString value.toNat).toList.all Char.isDigit = true := by
    rw [digits, List.all_eq_true]
    exact fun digit member => Nat.isDigit_of_mem_toDigits (by decide) (by decide) member
  have notEmpty : (toString value.toNat).isEmpty = false := by
    refine Bool.eq_false_iff.mpr fun isEmpty => ?_
    rw [String.isEmpty_iff.mp isEmpty] at digits
    exact Nat.toDigits_ne_nil digits.symm
  have number : (toString value.toNat).toList.foldl
      (fun value digit => 10 * value + (digit.toNat - '0'.toNat)) 0 = value.toNat := by
    rw [digits]
    exact Nat.ofDigitChars_ten_toDigits
  rw [readUInt32?, if_pos (by rw [areDigits, notEmpty]; rfl), number]
  dsimp only
  rw [if_pos value.toNat_lt, UInt32.ofNat_toNat]

theorem typeArgument?_of_number {value : UInt32} (isLexeme : token.lexeme = number value) :
    typeArgument? token = some (some value) := by
  have kind : token.kind = .integer := Token.kind_of_lexeme isLexeme
  have notWord : token.isWord "MAX" = false := by simp [Token.isWord, kind]
  rw [typeArgument?, notWord, if_neg Bool.false_ne_true, if_pos kind,
    Token.text_of_lexeme isLexeme, readUInt32?_toString]
  rfl

theorem typeArgument?_of_maximum (isLexeme : token.lexeme = (.word, "MAX")) :
    typeArgument? token = some none := by
  have isMaximum : token.isWord "MAX" = true := Token.isWord_self_of_lexeme isLexeme
  rw [typeArgument?, if_pos isMaximum]

theorem typeArgumentList?_last {stop : Token} {argument : Option UInt32}
    (read : typeArgument? token = some argument) (closes : stop.lexeme = rightParen)
    (others : List Token) :
    typeArgumentList? (token :: stop :: others) = some ([argument], others) := by
  have kind : stop.kind = .rightParen := Token.kind_of_lexeme closes
  rw [typeArgumentList?.eq_def]
  dsimp only
  rw [read]
  dsimp only
  rw [if_neg (by simp [kind]), if_pos kind]

theorem typeArgumentList?_cons {separator : Token} {argument : Option UInt32}
    {arguments : List (Option UInt32)} (read : typeArgument? token = some argument)
    (separates : separator.lexeme = comma)
    (found : typeArgumentList? rest = some (arguments, others)) :
    typeArgumentList? (token :: separator :: rest) = some (argument :: arguments, others) := by
  have kind : separator.kind = .comma := Token.kind_of_lexeme separates
  rw [typeArgumentList?.eq_def]
  dsimp only
  rw [read]
  dsimp only
  rw [if_pos kind, found]
  rfl

/-- The arguments of a type are read as they are declared. -/
theorem typeGroup_of_arguments (arguments : TypeArguments) {tokens : List Token}
    (written : tokens.map lexeme = arguments.lexemes) (noGroup : nextIs .leftParen others = false) :
    typeGroup (tokens ++ others) = .ok (arguments.numbers, arguments == .maximum, others) := by
  have group {opens : Token} {rest : List Token} (found : List (Option UInt32))
      (isOpen : opens.lexeme = leftParen) (read : typeArgumentList? rest = some (found, others))
      (few : (found.filterMap id).length ≤ 2) :
      typeGroup (opens :: rest) =
        .ok (found.filterMap id, found.any Option.isNone, others) := by
    have opening : nextIs .leftParen (opens :: rest) = true := by
      simp [nextIs_cons, Token.kind_of_lexeme isOpen]
    have arguments : typeArguments? rest =
        some (found.filterMap id, found.any Option.isNone, others) := by
      rw [typeArguments?, read]
      dsimp only
      rw [if_pos few]
    rw [typeGroup, if_pos opening, List.tail_cons, arguments]
  cases arguments with
  | none =>
    cases List.map_eq_nil_iff.mp written
    rw [typeGroup, List.nil_append, noGroup]
    rfl
  | one first =>
    obtain ⟨opens, _, rfl, isOpen, written⟩ := List.map_eq_cons_iff.mp written
    obtain ⟨number, _, rfl, isNumber, written⟩ := List.map_eq_cons_iff.mp written
    obtain ⟨closes, _, rfl, isClose, written⟩ := List.map_eq_cons_iff.mp written
    cases List.map_eq_nil_iff.mp written
    exact group [some first] isOpen
      (typeArgumentList?_last (typeArgument?_of_number isNumber) isClose others) (Nat.le_succ 1)
  | two first second =>
    obtain ⟨opens, _, rfl, isOpen, written⟩ := List.map_eq_cons_iff.mp written
    obtain ⟨number, _, rfl, isNumber, written⟩ := List.map_eq_cons_iff.mp written
    obtain ⟨separator, _, rfl, isComma, written⟩ := List.map_eq_cons_iff.mp written
    obtain ⟨number', _, rfl, isNumber', written⟩ := List.map_eq_cons_iff.mp written
    obtain ⟨closes, _, rfl, isClose, written⟩ := List.map_eq_cons_iff.mp written
    cases List.map_eq_nil_iff.mp written
    have last := typeArgumentList?_last (typeArgument?_of_number isNumber') isClose others
    exact group [some first, some second] isOpen
      (typeArgumentList?_cons (typeArgument?_of_number isNumber) isComma last) (Nat.le_refl _)
  | maximum =>
    obtain ⟨opens, _, rfl, isOpen, written⟩ := List.map_eq_cons_iff.mp written
    obtain ⟨word, _, rfl, isMaximum, written⟩ := List.map_eq_cons_iff.mp written
    obtain ⟨closes, _, rfl, isClose, written⟩ := List.map_eq_cons_iff.mp written
    cases List.map_eq_nil_iff.mp written
    exact group [none] isOpen
      (typeArgumentList?_last (typeArgument?_of_maximum isMaximum) isClose others) (by decide)

theorem dataType_of_declaration (column : ColumnDeclaration) {tokens : List Token}
    (isType : token.lexeme = quoted column.type)
    (written : tokens.map lexeme = column.arguments.lexemes)
    (noDot : nextIs .dot others = false) (noGroup : nextIs .leftParen others = false) :
    ∃ sql, dataType (token :: (tokens ++ others)) = .ok (column.dataType sql, others) := by
  have noPart : nextIs .dot (tokens ++ others) = false := by
    cases tokens with
    | nil => exact noDot
    | cons opens tokens =>
      have kind : opens.kind = .leftParen := by
        cases arguments : column.arguments with
        | none => simp [arguments, TypeArguments.lexemes] at written
        | one | two | maximum =>
          rw [arguments] at written
          exact Token.kind_of_lexeme (List.cons.inj written).1
      simp [nextIs_cons, kind]
  exact ⟨_, bind_eq_ok.mpr ⟨_, name_of_quoted isType, bind_eq_ok.mpr
    ⟨_, dottedParts_of_no_dot noPart, bind_eq_ok.mpr
      ⟨_, typeGroup_of_arguments column.arguments written noGroup, rfl⟩⟩⟩⟩

theorem columnType_of_declaration (column : ColumnDeclaration) {tokens : List Token}
    (isType : token.lexeme = quoted column.type)
    (written : tokens.map lexeme = column.arguments.lexemes)
    (noDot : nextIs .dot others = false) (noGroup : nextIs .leftParen others = false) :
    ∃ sql, columnType (token :: (tokens ++ others)) =
      .ok ([.dataType (column.dataType sql)], others) := by
  obtain ⟨sql, read⟩ := dataType_of_declaration column isType written noDot noGroup
  have kind : token.kind = .quotedName := Token.kind_of_lexeme isType
  have goesOn : atElementEnd (token :: (tokens ++ others)) = false :=
    atElementEnd_of_kind (by simp [kind]) (by simp [kind])
  have noOption : atColumnOption (token :: (tokens ++ others)) = false := by
    simp [atColumnOption, nextIsWordIn, nextAreWords, Token.isWord_of_quoted isType,
      Token.isWordIn_of_quoted isType]
  refine ⟨sql, ?_⟩
  rw [columnType, goesOn, noOption, Bool.or_false, if_neg Bool.false_ne_true]
  exact bind_eq_ok.mpr ⟨_, read, rfl⟩

/-! ## Options -/

theorem columnOption_of_null (isNull : token.lexeme = (.word, "NULL")) (rest : List Token) :
    ∃ sql, columnOption (token :: rest) = .ok (.constraint .null sql, rest) := by
  have notIdentity : token.isWord "IDENTITY" = false :=
    Token.isWord_eq_false_of_lexeme isNull (by decide +kernel)
  have null : token.isWord "NULL" = true := Token.isWord_self_of_lexeme isNull
  refine ⟨Token.textTo (token :: rest) rest, ?_⟩
  rw [columnOption]
  dsimp only
  rw [nextIsWord_cons, notIdentity, nextIsWord_cons, null]
  rfl

theorem columnOption_of_notNull {next : Token} (isNot : token.lexeme = (.word, "NOT"))
    (isNull : next.lexeme = (.word, "NULL")) (rest : List Token) :
    ∃ sql, columnOption (token :: next :: rest) = .ok (.constraint .notNull sql, rest) := by
  have notIdentity : token.isWord "IDENTITY" = false :=
    Token.isWord_eq_false_of_lexeme isNot (by decide +kernel)
  have notNull : token.isWord "NULL" = false :=
    Token.isWord_eq_false_of_lexeme isNot (by decide +kernel)
  have negation : token.isWord "NOT" = true := Token.isWord_self_of_lexeme isNot
  have null : next.isWord "NULL" = true := Token.isWord_self_of_lexeme isNull
  have both : nextAreWords ["NOT", "NULL"] (token :: next :: rest) = true := by
    simp [nextAreWords, negation, null]
  refine ⟨Token.textTo (token :: next :: rest) rest, ?_⟩
  rw [columnOption]
  dsimp only
  rw [nextIsWord_cons, notIdentity, nextIsWord_cons, notNull, both]
  rfl

theorem columnOption_of_identity (isIdentity : token.lexeme = (.word, "IDENTITY"))
    (noGroup : nextIs .leftParen rest = false)
    (replicates : nextAreWords ["NOT", "FOR", "REPLICATION"] rest = false) :
    ∃ sql, columnOption (token :: rest) = .ok (.identity sql, rest) := by
  have identity : token.isWord "IDENTITY" = true := Token.isWord_self_of_lexeme isIdentity
  refine ⟨Token.textTo (token :: rest) rest, ?_⟩
  rw [columnOption]
  dsimp only
  rw [nextIsWord_cons, identity, if_pos rfl, List.tail_cons, skipOptionalGroup, noGroup]
  change Except.ok _ = _
  rw [dropNotForReplication, replicates]
  rfl

/-- One option before others. -/
theorem columnOptions_cons {tokens rest : List Token} {option : Node} {options : List Node}
    (isWord : token.kind = .word) (read : columnOption (token :: tokens) = .ok (option, rest))
    (found : columnOptions rest = .ok (options, others)) :
    columnOptions (token :: tokens) = .ok (option :: options, others) := by
  have goesOn : atElementEnd (token :: tokens) = false :=
    atElementEnd_of_kind (by simp [isWord]) (by simp [isWord])
  have step : columnOption? (token :: tokens) = .ok (some (option, rest)) := by
    rw [columnOption?, goesOn, if_neg Bool.false_ne_true, read]
    rfl
  refine (many_of_some step).trans ?_
  change (columnOptions rest).map _ = _
  rw [found]
  rfl

section

variable {stop : Token} (ends : stop.EndsElement) {tokens : List Token}
include ends

theorem columnOptions_of_nullRule {rule : NullRule} (written : tokens.map lexeme = rule.lexemes)
    (others : List Token) :
    ∃ sql, columnOptions (tokens ++ stop :: others) =
      .ok (if rule = .unspecified then [] else [.constraint rule.constraint sql],
        stop :: others) := by
  have final : columnOptions (stop :: others) = .ok ([], stop :: others) :=
    many_of_none (by rw [columnOption?, if_pos (Parallel.atElementEnd_of_ends ends others)])
  cases rule with
  | unspecified =>
    cases List.map_eq_nil_iff.mp written
    exact ⟨"", final⟩
  | null =>
    obtain ⟨null, _, rfl, isNull, written⟩ := List.map_eq_cons_iff.mp written
    cases List.map_eq_nil_iff.mp written
    obtain ⟨sql, read⟩ := columnOption_of_null isNull (stop :: others)
    exact ⟨sql, columnOptions_cons (Token.kind_of_lexeme isNull) read final⟩
  | notNull =>
    obtain ⟨negation, _, rfl, isNot, written⟩ := List.map_eq_cons_iff.mp written
    obtain ⟨null, _, rfl, isNull, written⟩ := List.map_eq_cons_iff.mp written
    cases List.map_eq_nil_iff.mp written
    obtain ⟨sql, read⟩ := columnOption_of_notNull isNot isNull (stop :: others)
    exact ⟨sql, columnOptions_cons (Token.kind_of_lexeme isNot) read final⟩

theorem nextIs_of_words {kind : TokenKind} {words : Lexemes} (written : tokens.map lexeme = words)
    (areWords : ∀ part ∈ words, part.1 = .word) (notWord : kind ≠ .word) (notComma : kind ≠ .comma)
    (notParen : kind ≠ .rightParen) : nextIs kind (tokens ++ stop :: others) = false := by
  subst written
  cases tokens with
  | nil => exact ends.kind_beq_eq_false notComma notParen
  | cons token tokens =>
    have isWord : token.kind = .word := areWords token.lexeme List.mem_cons_self
    rw [List.cons_append, nextIs_cons, isWord]
    exact beq_eq_false_iff_ne.mpr notWord.symm

theorem replicates_of_nullRule {rule : NullRule} (written : tokens.map lexeme = rule.lexemes) :
    nextAreWords ["NOT", "FOR", "REPLICATION"] (tokens ++ stop :: others) = false := by
  cases rule with
  | unspecified =>
    cases List.map_eq_nil_iff.mp written
    simp [nextAreWords, ends.isWord_eq_false]
  | null =>
    obtain ⟨null, _, rfl, isNull, written⟩ := List.map_eq_cons_iff.mp written
    have notNot : null.isWord "NOT" = false :=
      Token.isWord_eq_false_of_lexeme isNull (by decide +kernel)
    simp [nextAreWords, notNot]
  | notNull =>
    obtain ⟨negation, _, rfl, isNot, written⟩ := List.map_eq_cons_iff.mp written
    obtain ⟨null, _, rfl, isNull, written⟩ := List.map_eq_cons_iff.mp written
    have notFor : null.isWord "FOR" = false :=
      Token.isWord_eq_false_of_lexeme isNull (by decide +kernel)
    simp [nextAreWords, notFor]

/-- The options of a column are read as they are declared. -/
theorem columnOptions_of_declaration (column : ColumnDeclaration)
    (written : tokens.map lexeme =
      (if column.isIdentity then [(.word, "IDENTITY")] else []) ++ column.nullRule.lexemes)
    (others : List Token) :
    ∃ identitySql ruleSql, columnOptions (tokens ++ stop :: others) =
      .ok (column.options identitySql ruleSql, stop :: others) := by
  cases identity : column.isIdentity with
  | false =>
    rw [identity] at written
    obtain ⟨sql, read⟩ := columnOptions_of_nullRule ends written others
    exact ⟨"", sql, by simpa [ColumnDeclaration.options, identity] using read⟩
  | true =>
    rw [identity] at written
    obtain ⟨word, rest, rfl, isIdentity, written⟩ := List.map_eq_cons_iff.mp written
    obtain ⟨sql, read⟩ := columnOptions_of_nullRule ends written others
    have noGroup : nextIs .leftParen (rest ++ stop :: others) = false :=
      nextIs_of_words ends written column.nullRule.areWords nofun nofun nofun
    obtain ⟨identitySql, first⟩ := columnOption_of_identity isIdentity noGroup
      (replicates_of_nullRule ends written)
    have all := columnOptions_cons (Token.kind_of_lexeme isIdentity) first read
    exact ⟨identitySql, sql, by simpa [ColumnDeclaration.options, identity] using all⟩

/-- The element of a column is read as the column that it declares. -/
theorem column_of_declaration (declared : ColumnDeclaration)
    (written : tokens.map lexeme = declared.lexemes) (others : List Token) :
    ∃ node, column (tokens ++ stop :: others) = .ok (node, stop :: others) ∧
      (ElementDeclaration.column declared).IsReadAs node := by
  obtain ⟨label, _, rfl, isLabel, written⟩ := List.map_eq_cons_iff.mp written
  obtain ⟨type, _, rfl, isType, written⟩ := List.map_eq_cons_iff.mp written
  obtain ⟨arguments, options, rfl, argumentsWritten, optionsWritten⟩ :=
    List.map_eq_append_iff.mp written
  have areWords : ∀ part ∈ (if declared.isIdentity then [(TokenKind.word, "IDENTITY")] else []) ++
      declared.nullRule.lexemes, part.1 = .word := by
    have rule := declared.nullRule.areWords
    cases declared.isIdentity <;> simpa using rule
  -- After the type comes a word or the end of the element, never another part or a group.
  have noDot : nextIs .dot (options ++ stop :: others) = false :=
    nextIs_of_words ends optionsWritten areWords nofun nofun nofun
  have noGroup : nextIs .leftParen (options ++ stop :: others) = false :=
    nextIs_of_words ends optionsWritten areWords nofun nofun nofun
  obtain ⟨nameSql, labelRead⟩ :=
    identifier_of_quoted isLabel (type :: (arguments ++ (options ++ stop :: others)))
  obtain ⟨typeSql, typeRead⟩ := columnType_of_declaration declared isType argumentsWritten noDot
    noGroup
  obtain ⟨identitySql, ruleSql, optionsRead⟩ :=
    columnOptions_of_declaration ends declared optionsWritten others
  have stored : nextIsWord "AS" (type :: (arguments ++ (options ++ stop :: others))) = false :=
    Token.isWord_of_quoted isType "AS"
  refine ⟨_, ?_, .column declared nameSql typeSql identitySql ruleSql
    (Token.textTo (label :: type :: (arguments ++ (options ++ stop :: others))) (stop :: others))⟩
  rw [List.cons_append, List.cons_append, List.append_assoc]
  refine bind_eq_ok.mpr ⟨_, labelRead, ?_⟩
  dsimp only
  rw [stored, if_neg Bool.false_ne_true]
  exact bind_eq_ok.mpr ⟨_, typeRead, bind_eq_ok.mpr ⟨_, optionsRead, rfl⟩⟩

end

end Grammar

end SqlSchema
