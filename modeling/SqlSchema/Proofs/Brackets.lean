import SqlSchema.Proofs.Reading

/-!
Brackets of expressions: parentheses, and the words `CASE` and `END`. An operator chain counts both
kinds together. Where the brackets before a comma, a `)` or a semicolon are nested, the chain ends
there at the latest, and each bracket that it passes over has its partner in the chain.
-/

namespace SqlSchema

/-- What encloses a part of an expression. -/
inductive Bracket where
  /-- A pair of parentheses. -/
  | group
  /-- `CASE` and its `END`. -/
  | caseExpression
  deriving DecidableEq, Repr

namespace Token

/-- The bracket that the token opens. -/
def opens? (token : Token) : Option Bracket :=
  if token.kind = .leftParen then some .group
  else if token.isWord "CASE" then some .caseExpression
  else none

/-- The bracket that the token closes. -/
def closes? (token : Token) : Option Bracket :=
  if token.kind = .rightParen then some .group
  else if token.isWord "END" then some .caseExpression
  else none

/-- The brackets that are open after the token, the innermost first, where `stack` are those open
before it. None if the token closes another bracket than the innermost. -/
def nest (stack : List Bracket) (token : Token) : Option (List Bracket) :=
  match token.opens?, token.closes? with
  | some bracket, _ => some (bracket :: stack)
  | none, some bracket => if stack.head? = some bracket then some stack.tail else none
  | none, none => some stack

/-- The brackets that are open after the tokens, where `stack` are those open before them. -/
def openBrackets (stack : List Bracket) (tokens : List Token) : Option (List Bracket) :=
  tokens.foldlM nest stack

/-- Whether each bracket of the tokens has its partner among them, and no two pairs cross. -/
def IsBracketed (tokens : List Token) : Prop :=
  openBrackets [] tokens = some []

instance (tokens : List Token) : Decidable (IsBracketed tokens) := by
  unfold IsBracketed
  infer_instance

variable {stack next : List Bracket} {token : Token} {tokens front rest : List Token}

theorem openBrackets_cons_eq_some : openBrackets stack (token :: tokens) = some next ↔
    ∃ middle, nest stack token = some middle ∧ openBrackets middle tokens = some next := by
  rw [openBrackets, List.foldlM_cons]
  exact Option.bind_eq_some_iff

theorem openBrackets_append_eq_some : openBrackets stack (front ++ rest) = some next ↔
    ∃ middle, openBrackets stack front = some middle ∧ openBrackets middle rest = some next := by
  rw [openBrackets, List.foldlM_append]
  exact Option.bind_eq_some_iff

end Token

namespace Grammar

open Token

variable {before stop token : Token} {stack next : List Bracket}
  {tokens inner passed rest : List Token}

/-! ## The count of brackets -/

theorem chainDepth_eq (depth : Nat) (token : Token) :
    chainDepth depth token =
      match token.opens?, token.closes? with
      | some _, _ => depth + 1
      | none, some _ => depth - 1
      | none, none => depth := by
  unfold chainDepth opens? closes?
  by_cases isLeft : token.kind = .leftParen
  · simp only [isLeft, if_true]
  · by_cases isRight : token.kind = .rightParen
    · have notCase : token.isWord "CASE" = false := by
        rw [isWord, isRight]
        rfl
      simp [isRight, notCase]
    · cases isCase : token.isWord "CASE" with
      | true => simp [isLeft, isRight]
      | false =>
        cases isEnd : token.isWord "END" with
        | true => simp [isLeft, isRight]
        | false => simp [isLeft, isRight]

/-- The count is the number of open brackets, whatever their kinds. It never stops at zero, because
nested tokens close no bracket that is not open. -/
theorem chainDepth_length (nested : nest stack token = some next) :
    chainDepth stack.length token = next.length := by
  rw [chainDepth_eq]
  unfold nest at nested
  cases opens : token.opens? with
  | some bracket =>
    simp only [opens, Option.some.injEq] at nested
    rw [← nested, List.length_cons]
  | none =>
    cases closes : token.closes? with
    | none =>
      simp only [opens, closes, Option.some.injEq] at nested
      rw [nested]
    | some bracket =>
      simp only [opens, closes] at nested
      split at nested
      · cases nested
        exact List.length_tail.symm
      · cases nested

theorem foldl_chainDepth_length (nested : openBrackets stack tokens = some next) :
    tokens.foldl chainDepth stack.length = next.length := by
  induction tokens generalizing stack with
  | nil =>
    cases nested
    rfl
  | cons token tokens induction =>
    rcases openBrackets_cons_eq_some.mp nested with ⟨middle, first, further⟩
    rw [List.foldl_cons, chainDepth_length first]
    exact induction further

theorem foldl_chainDepth_of_isBracketed (bracketed : IsBracketed tokens) :
    tokens.foldl chainDepth 0 = 0 :=
  foldl_chainDepth_length bracketed

/-! ## Chains -/

/-- Whether a chain ends before the tokens, at its outermost level. `before` is the token before
them. -/
def chainEnds (before : Token) : List Token → Bool
  | [] => true
  | token :: rest => chainEndsAt before token rest

/-- Whether a chain that follows `before` with `depth` brackets open is `passed`, and not longer or
shorter, if `rest` comes after it. -/
structure IsChain (depth : Nat) (before : Token) (passed rest : List Token) : Prop where
  closed : rest ≠ [] → passed.foldl chainDepth depth = 0
  ends : chainEnds (passed.getLastD before) rest = true
  /-- The chain does not end earlier outside of brackets. -/
  goesOn {front further : List Token} (split : passed = front ++ further) (isSome : further ≠ [])
    (closed : front.foldl chainDepth depth = 0) :
    chainEnds (front.getLastD before) (further ++ rest) = false

theorem IsChain.nil {depth : Nat} (outside : rest ≠ [] → depth = 0)
    (ends : chainEnds before rest = true) : IsChain depth before [] rest where
  closed := outside
  ends := ends
  goesOn split isSome _ :=
    absurd (List.append_eq_nil_iff.mp split.symm).2 isSome

theorem IsChain.cons {depth : Nat}
    (passes : depth = 0 → chainEndsAt before token (passed ++ rest) = false)
    (chain : IsChain (chainDepth depth token) token passed rest) :
    IsChain depth before (token :: passed) rest where
  closed := chain.closed
  ends := by
    rw [List.getLastD_cons]
    exact chain.ends
  goesOn {front _} split isSome closed := by
    cases front with
    | nil =>
      cases split
      exact passes closed
    | cons first front =>
      cases split
      rw [List.getLastD_cons]
      exact chain.goesOn rfl isSome closed

theorem exists_isChain (depth : Nat) (before : Token) (tokens : List Token) :
    ∃ passed, tokens = passed ++ skipChain depth before tokens ∧
      IsChain depth before passed (skipChain depth before tokens) := by
  fun_induction skipChain depth before tokens with
  | case1 depth before =>
    exact ⟨[], rfl, .nil (fun isSome => absurd rfl isSome) rfl⟩
  | case2 depth before token rest ends =>
    rcases Bool.and_eq_true_iff.mp ends with ⟨outside, ends⟩
    exact ⟨[], rfl, .nil (fun _ => of_decide_eq_true outside) ends⟩
  | case3 depth before token rest passes induction =>
    rcases induction with ⟨passed, split, chain⟩
    refine ⟨token :: passed, congrArg (token :: ·) split, .cons ?_ chain⟩
    intro outside
    rw [← split]
    simpa [outside] using passes

/-- A chain does not go on beyond nested tokens after which it can end. -/
theorem IsChain.isPrefix {after : List Token} (chain : IsChain 0 before passed after)
    (bracketed : IsBracketed inner) (stops : ∀ before, chainEnds before rest = true)
    (split : inner ++ rest = passed ++ after) : passed <+: inner := by
  rcases List.append_eq_append_iff.mp split with ⟨beyond, isPassed, isRest⟩ | ⟨left, isInner, -⟩
  · cases beyond with
    | nil =>
      cases isPassed.trans (List.append_nil inner)
      exact List.prefix_rfl
    | cons first beyond =>
      -- The count is zero after `inner`, so the chain would have ended there.
      have goesOn := chain.goesOn isPassed (List.cons_ne_nil first beyond)
        (foldl_chainDepth_of_isBracketed bracketed)
      rw [← isRest, stops] at goesOn
      cases goesOn
  · exact ⟨left, isInner.symm⟩

/-- Nested tokens that are cut where no bracket is counted are nested on both sides of the cut. -/
theorem isBracketed_of_append (bracketed : IsBracketed (passed ++ rest))
    (closed : passed.foldl chainDepth 0 = 0) : IsBracketed passed ∧ IsBracketed rest := by
  rcases openBrackets_append_eq_some.mp bracketed with ⟨middle, first, further⟩
  have none : middle.length = 0 := (foldl_chainDepth_length first).symm.trans closed
  cases List.eq_nil_of_length_eq_zero none
  exact ⟨first, further⟩

/-- An operator chain ends inside nested tokens or directly after them if a comma, a `)` or a
semicolon follows. It passes over no bracket without its partner, and ends where it first can. -/
theorem exists_skipChain_of_isBracketed (bracketed : IsBracketed inner)
    (isStop : stop.kind = .comma ∨ stop.kind = .rightParen ∨ stop.kind = .semicolon)
    (before : Token) (rest : List Token) :
    ∃ passed left, inner = passed ++ left ∧
      skipChain 0 before (inner ++ stop :: rest) = left ++ stop :: rest ∧
      IsBracketed passed ∧ IsBracketed left ∧
      chainEnds (passed.getLastD before) (left ++ stop :: rest) = true ∧
      ∀ front further, passed = front ++ further → further ≠ [] → IsBracketed front →
        chainEnds (front.getLastD before) (further ++ (left ++ stop :: rest)) = false := by
  have stops (before : Token) : chainEnds before (stop :: rest) = true := by
    rcases isStop with kind | kind | kind <;> simp [chainEnds, chainEndsAt, kind]
  rcases exists_isChain 0 before (inner ++ stop :: rest) with ⟨passed, split, chain⟩
  generalize skipChain 0 before (inner ++ stop :: rest) = after at split chain ⊢
  rcases chain.isPrefix bracketed stops split with ⟨left, rfl⟩
  rw [List.append_assoc] at split
  cases List.append_cancel_left split
  have isSome := List.append_ne_nil_of_right_ne_nil left (List.cons_ne_nil stop rest)
  rcases isBracketed_of_append bracketed (chain.closed isSome) with ⟨passedNested, leftNested⟩
  refine ⟨passed, left, rfl, rfl, passedNested, leftNested, chain.ends, ?_⟩
  intro front further split isSome frontNested
  exact chain.goesOn split isSome (foldl_chainDepth_of_isBracketed frontNested)

/-- The chain ends before the second `NOT NULL`, which is an option of the column. -/
theorem exists_skipChain_of_isBracketed_case :
    ∃ before inner stop rest,
      Token.scan "+ CASE WHEN (A) THEN 1 END IS NOT NULL NOT NULL, B INT" =
        .ok (before :: (inner ++ stop :: rest)) ∧
      IsBracketed inner ∧ stop.kind = .comma ∧
      ∃ passed left, inner = passed ++ left ∧
        skipChain 0 before (inner ++ stop :: rest) = left ++ stop :: rest ∧
        IsBracketed passed ∧ IsBracketed left ∧
        chainEnds (passed.getLastD before) (left ++ stop :: rest) = true ∧
        ∀ front further, passed = front ++ further → further ≠ [] → IsBracketed front →
          chainEnds (front.getLastD before) (further ++ (left ++ stop :: rest)) = false := by
  have holds : (Token.scan "+ CASE WHEN (A) THEN 1 END IS NOT NULL NOT NULL, B INT").toOption.any
      (fun tokens => tokens ≠ [] ∧ IsBracketed (tokens.tail.take 13) ∧
        nextIs .comma (tokens.tail.drop 13) = true) = true := by
    decide +kernel
  rcases (Option.any_eq_true _ _).mp holds with ⟨tokens, scanned, holds⟩
  rcases of_decide_eq_true holds with ⟨isSome, bracketed, isComma⟩
  rcases List.exists_cons_of_ne_nil isSome with ⟨before, tail, rfl⟩
  rw [List.tail_cons] at bracketed isComma
  rcases exists_of_nextIs isComma with ⟨stop, rest, after, stopKind⟩
  refine ⟨before, tail.take 13, stop, rest, ?_, bracketed, stopKind, ?_⟩
  · rw [← after, List.take_append_drop]
    exact toOption_eq_some.mp scanned
  · exact exists_skipChain_of_isBracketed bracketed (.inl stopKind) before rest

end Grammar

end SqlSchema
