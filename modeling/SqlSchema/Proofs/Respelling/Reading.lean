import SqlSchema.Proofs.Guise.Script
import SqlSchema.Proofs.Respelling.Basic

/-!
Reading in another spelling. A respelling is a guise, and what resembles a tree in it is the tree in
the other spelling. So what is read from tokens in another spelling is what is read from the tokens,
in that spelling.
-/

namespace SqlSchema

open Respelling

variable (spelling : Respelling)

/-! ## Respellings as guises -/

theorem Grammar.readUInt32?_respell (text : String) :
    readUInt32? (respell spelling text) = readUInt32? text := by
  have digits : (text.toList.map spelling.char).all Char.isDigit =
      text.toList.all Char.isDigit := by
    rw [List.all_map]
    congr 1
    funext char
    exact spelling.isDigit_char char
  unfold readUInt32?
  rw [chars_respell, digits, isEmptyText_respell]
  split
  · rename_i isNumber
    have all : ∀ char ∈ text.toList, spelling.char char = char := fun char member =>
      spelling.char_of_isDigit
        (List.all_eq_true.mp (Bool.and_eq_true_iff.mp isNumber).1 char member)
    rw [List.map_congr_left all, List.map_id']
  · rfl

/-- The guise of another spelling. -/
def Respelling.guise : Guise where
  token := respell spelling
  text := respell spelling
  Shows original shown := shown = respell spelling original
  kind_token := Token.kind_respell spelling
  opensLine_token := Token.opensLine_respell spelling
  text_token := Token.text_respell spelling
  name_token := Token.name_respell spelling
  literalValue_token := Token.literalValue_respell spelling
  equalIgnoringCase_text := equalIgnoringCase_respell spelling
  upperCaseIs_text := upperCaseIs_respell spelling
  readUInt32?_text := Grammar.readUInt32?_respell spelling
  text_eq_iff noLetters := respell_eq_iff spelling noLetters
  shows_text _ := rfl
  shows_textOf := Token.textOf_respell spelling

/-! ## What resembles trees -/

variable {spelling}

theorem DataType.eq_respell {type type' : DataType} (same : type.Resembles spelling.guise type') :
    type' = respell spelling type := by
  obtain ⟨schema', name', argument1', argument2', isMaximum', sql'⟩ := type'
  obtain ⟨rfl, rfl, rfl, rfl, rfl, shown⟩ := same
  obtain rfl : sql' = respell spelling type.sql := shown
  rfl

-- A proof that trees resemble each other has no size, so the recursion is on the first tree.
mutual

theorem Node.eq_respelled {node node' : Node} (same : Node.Resembles spelling.guise node node') :
    node' = node.respelled spelling := by
  cases same with
  | column same shown => exact congrArg₂ Node.column (eq_respelledNodes same) shown
  | computedColumn same shown => exact congrArg₂ Node.computedColumn (eq_respelledNodes same) shown
  | primaryKey same shown => exact congrArg₂ Node.primaryKey (eq_respelledNodes same) shown
  | constraint kind shown => exact congrArg (Node.constraint kind) shown
  | identifier value shown => exact congrArg (Node.identifier (respell spelling value)) shown
  | dataType same => exact congrArg Node.dataType (DataType.eq_respell same)
  | identity shown => exact congrArg Node.identity shown
  | collation shown => exact congrArg Node.collation shown
  | indexedColumn name shown => exact congrArg (Node.indexedColumn (respell spelling name)) shown
  | indexOption shown => exact congrArg Node.indexOption shown
  | caseExpression sameOperand sameClauses sameOtherwise shown =>
    rw [Node.respelled, eq_respelledNode? sameOperand, eq_respelledClauses sameClauses,
      eq_respelledNode? sameOtherwise]
    exact congrArg (Node.caseExpression _ _ _) shown
  | call function same shown =>
    exact congrArg₂ (Node.call (respell spelling function)) (eq_respelledNodes same) shown
  | columnRef name shown => exact congrArg (Node.columnRef (respell spelling name)) shown
  | literal kind value shown => exact congrArg (Node.literal kind (respell spelling value)) shown
  | unknown typeName shown => exact congrArg (Node.unknown typeName) shown
termination_by sizeOf node

theorem WhenClause.eq_respelled {clause clause' : WhenClause}
    (same : WhenClause.Resembles spelling.guise clause clause') :
    clause' = clause.respelled spelling := by
  cases same with
  | mk sameCondition sameResult shown =>
    rw [WhenClause.respelled, Node.eq_respelled sameCondition, Node.eq_respelled sameResult]
    exact congrArg (WhenClause.mk _ _) shown
termination_by sizeOf clause

theorem eq_respelledNodes {nodes nodes' : List Node}
    (same : List.Forall₂ (Node.Resembles spelling.guise) nodes nodes') :
    nodes' = respelledNodes spelling nodes := by
  cases same with
  | nil => rfl
  | cons sameNode sameNodes =>
    exact congrArg₂ List.cons (Node.eq_respelled sameNode) (eq_respelledNodes sameNodes)
termination_by sizeOf nodes

theorem eq_respelledNode? {node node' : Option Node}
    (same : Option.Rel (Node.Resembles spelling.guise) node node') :
    node' = respelledNode? spelling node := by
  cases same with
  | none => rfl
  | some same => exact congrArg some (Node.eq_respelled same)
termination_by sizeOf node

theorem eq_respelledClauses {clauses clauses' : List WhenClause}
    (same : List.Forall₂ (WhenClause.Resembles spelling.guise) clauses clauses') :
    clauses' = respelledClauses spelling clauses := by
  cases same with
  | nil => rfl
  | cons sameClause sameClauses =>
    exact congrArg₂ List.cons (WhenClause.eq_respelled sameClause)
      (eq_respelledClauses sameClauses)
termination_by sizeOf clauses

end

theorem CreateTable.eq_respell {statement statement' : CreateTable}
    (same : statement.Resembles spelling.guise statement') :
    statement' = respell spelling statement := by
  obtain ⟨schema', name', sql', children', body'⟩ := statement'
  obtain ⟨rfl, rfl, shown, sameChildren, bodyShown⟩ := same
  obtain rfl : sql' = respell spelling statement.sql := shown
  obtain rfl : body' = respell spelling statement.definition.sql := bodyShown
  obtain rfl : children' = respell spelling statement.definition.children :=
    (eq_respelledNodes sameChildren).trans (respelledNodes_eq spelling _)
  rfl

theorem Statement.eq_respell {statement statement' : Statement}
    (same : Statement.Resembles spelling.guise statement statement') :
    statement' = respell spelling statement := by
  cases same with
  | other shown => exact congrArg Statement.other shown
  | createTable same => exact congrArg Statement.createTable (CreateTable.eq_respell same)

theorem eq_respell_of_resembles {found found' : List Statement}
    (same : List.Forall₂ (Statement.Resembles spelling.guise) found found') :
    found' = respell spelling found := by
  induction same with
  | nil => rfl
  | cons sameStatement sameOthers induction =>
    exact congrArg₂ List.cons (Statement.eq_respell sameStatement) induction

namespace Grammar

/-- The statements of a script in another spelling are those of the script, in that spelling. -/
theorem statements_respell (spelling : Respelling) (defaultSchema : String)
    (tokens : List Token) :
    statements (respell spelling defaultSchema) (respell spelling tokens) =
      respell spelling (statements defaultSchema tokens) := by
  have read : SameOutcome (List.Forall₂ (Statement.Resembles spelling.guise))
      (fun first second => second = respell spelling first) (statements defaultSchema tokens)
      (statements (respell spelling defaultSchema) (respell spelling tokens)) :=
    statements_reads spelling.guise defaultSchema tokens
  generalize statements defaultSchema tokens = result at read
  generalize statements (respell spelling defaultSchema) (respell spelling tokens) = result' at read
  cases read with
  | ok same => exact congrArg Except.ok (eq_respell_of_resembles same)
  | error same => exact congrArg Except.error same

end Grammar

end SqlSchema
