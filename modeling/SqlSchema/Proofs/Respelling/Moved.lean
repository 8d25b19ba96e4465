import SqlSchema.Proofs.Heading
import SqlSchema.Proofs.Respelling.Reading

/-!
Scripts that stand somewhere else. Their tokens are spelled as they were and have other places, so
the statements are the same and an error is on another line.
-/

namespace SqlSchema

open Respelling

/-- The spelling of what stands `offset` bytes and `lines` lines further on. -/
def Respelling.moved (offset lines : Nat) : Respelling where
  char := id
  start := (· + offset)
  line := (· + lines)
  toLower_char _ := rfl

variable (offset lines : Nat)

/-! ## Nodes -/

@[simp] theorem respell_moved_text (text : String) : respell (.moved offset lines) text = text := by
  apply String.toList_injective
  rw [chars_respell]
  exact List.map_id _

@[simp] theorem respell_moved_text? (text : Option String) :
    respell (.moved offset lines) text = text := by
  cases text with
  | none => rfl
  | some text => rw [respell_some, respell_moved_text]

@[simp] theorem respell_moved_dataType (type : DataType) :
    respell (.moved offset lines) type = type := by
  change DataType.mk _ _ _ _ _ _ = type
  simp

mutual

theorem respelled_moved (node : Node) : node.respelled (.moved offset lines) = node := by
  cases node <;> simp [Node.respelled, respelledNodes_moved, respelledNode?_moved,
    respelledClauses_moved]

theorem respelledClause_moved (clause : WhenClause) :
    clause.respelled (.moved offset lines) = clause := by
  cases clause
  simp [WhenClause.respelled, respelled_moved]

theorem respelledNodes_moved (nodes : List Node) :
    respelledNodes (.moved offset lines) nodes = nodes := by
  cases nodes with
  | nil => rfl
  | cons node nodes => rw [respelledNodes, respelled_moved, respelledNodes_moved]

theorem respelledNode?_moved (node : Option Node) :
    respelledNode? (.moved offset lines) node = node := by
  cases node with
  | none => rfl
  | some node => rw [respelledNode?, respelled_moved]

theorem respelledClauses_moved (clauses : List WhenClause) :
    respelledClauses (.moved offset lines) clauses = clauses := by
  cases clauses with
  | nil => rfl
  | cons clause clauses => rw [respelledClauses, respelledClause_moved, respelledClauses_moved]

end

theorem respell_moved_statement (statement : Statement) :
    respell (.moved offset lines) statement = statement := by
  cases statement with
  | other sql => exact congrArg Statement.other (respell_moved_text offset lines sql)
  | createTable statement =>
    obtain ⟨schema, name, sql, children, body⟩ := statement
    have sameChildren : respell (.moved offset lines) children = children := by
      rw [← respelledNodes_eq, respelledNodes_moved]
    change Statement.createTable ⟨_, _, _, ⟨respell (.moved offset lines) children, _⟩⟩ = _
    simp [sameChildren]

theorem respell_moved_statements (found : List Statement) :
    respell (.moved offset lines) found = found :=
  (List.map_congr_left fun statement _ => respell_moved_statement offset lines statement).trans
    (List.map_id found)

/-! ## Tokens -/

theorem respell_moved_token (token : Token) :
    respell (.moved offset lines) token = token.moved offset lines := by
  change Token.mk _ (respell (.moved offset lines) token.text)
    (respell (.moved offset lines) token.lead) _ _ _ = _
  rw [respell_moved_text, respell_moved_text]
  rfl

theorem respell_moved_tokens (tokens : List Token) :
    respell (.moved offset lines) tokens = tokens.map (Token.moved offset lines) :=
  List.map_congr_left fun token _ => respell_moved_token offset lines token

namespace Grammar

/-- Where tokens stand does not change the statements that are read from them. -/
theorem statements_moved (defaultSchema : String) (tokens : List Token) :
    statements defaultSchema (tokens.map (Token.moved offset lines)) =
      (statements defaultSchema tokens).mapError (respell (.moved offset lines)) := by
  have same := statements_respell (.moved offset lines) defaultSchema tokens
  rw [respell_moved_text, respell_moved_tokens] at same
  rw [same]
  cases statements defaultSchema tokens with
  | error refusal => rfl
  | ok found => exact congrArg Except.ok (respell_moved_statements offset lines found)

theorem toError_moved (refusal : Refusal) (lastLine : Nat) :
    (respell (.moved offset lines) refusal).toError (lastLine + lines) =
      (refusal.toError lastLine).moved lines := by
  obtain ⟨wanted, found⟩ := refusal
  cases found with
  | none => rfl
  | some token =>
    change (Refusal.mk wanted (some (respell (.moved offset lines) token))).toError _ = _
    rw [respell_moved_token]
    rfl

/-! ## What stands before the first token -/

section

variable (defaultSchema lead : String) (opens : Bool) (tokens : List Token)

theorem createTable_headed :
    createTable defaultSchema (Token.headed lead opens tokens) =
      createTable defaultSchema tokens := by
  unfold createTable
  rw [← List.drop_tail, Token.tail_headed, List.drop_tail]
  simp only [Token.textTo_headed]

variable {tokens opens} in
/-- The text before the first token does not change the statements. -/
theorem statements_headed (same : ∀ first ∈ tokens.head?, first.opensLine = opens) :
    statements defaultSchema (Token.headed lead opens tokens) =
      statements defaultSchema tokens := by
  cases tokens with
  | nil => rfl
  | cons first rest =>
    obtain rfl : first.opensLine = opens := same first rfl
    have table := createTable_headed defaultSchema lead first.opensLine (first :: rest)
    have words := nextAreWords_headed lead first.opensLine (first :: rest) ["CREATE", "TABLE"]
    have text := Token.textTo_headed lead first.opensLine (first :: rest)
      (afterStatement first rest)
    rw [Token.headed_cons] at table words text ⊢
    have sameAfter : afterStatement { first with lead } rest = afterStatement first rest := rfl
    rw [statements_cons, statements_cons, table, words]
    dsimp only
    rw [sameAfter, text]
    rfl

end

end Grammar

end SqlSchema
