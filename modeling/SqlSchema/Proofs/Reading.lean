import SqlSchema.Grammar.Script

/-!
Readers and what follows from their success. A reader that calls others succeeds exactly when they
do, one after the other.
-/

namespace SqlSchema.Grammar

theorem bind_eq_ok {α β ε : Type} {result : Except ε α} {next : α → Except ε β} {value : β} :
    (result >>= next) = .ok value ↔ ∃ middle, result = .ok middle ∧ next middle = .ok value := by
  cases result with
  | error error => simp [bind, Except.bind]
  | ok middle => simp [bind, Except.bind]

theorem map_eq_ok {α β ε : Type} {result : Except ε α} {convert : α → β} {value : β} :
    result.map convert = .ok value ↔ ∃ middle, result = .ok middle ∧ convert middle = value := by
  cases result with
  | error error => simp [Except.map]
  | ok middle => simp [Except.map]

theorem mapError_eq_ok {α ε ε' : Type} {result : Except ε α} {convert : ε → ε'} {value : α} :
    result.mapError convert = .ok value ↔ result = .ok value := by
  cases result with
  | error error =>
    change Except.error (convert error) = .ok value ↔ _
    simp
  | ok found =>
    change Except.ok found = .ok value ↔ _
    simp

theorem toOption_eq_some {α ε : Type} {result : Except ε α} {value : α} :
    result.toOption = some value ↔ result = .ok value := by
  cases result with
  | error error => simp [Except.toOption]
  | ok found => simp [Except.toOption]

theorem exists_of_isSome {α ε : Type} {result : Except ε α}
    (isSome : result.toOption.isSome = true) : ∃ value, result = .ok value := by
  obtain ⟨value, found⟩ := Option.isSome_iff_exists.mp isSome
  exact ⟨value, toOption_eq_some.mp found⟩

/-- There is a result if something is read off it. -/
theorem exists_of_toOption_map {α β ε : Type} {result : Except ε α} {convert : α → β} {value : β}
    (converted : result.toOption.map convert = some value) :
    ∃ found, result = .ok found ∧ convert found = value := by
  obtain ⟨found, isFound, same⟩ := Option.map_eq_some_iff.mp converted
  exact ⟨found, toOption_eq_some.mp isFound, same⟩

/-- A reader that looks the same way elsewhere takes the same branch there. -/
theorem branch_eq {α β : Type} {holds : Prop} [Decidable holds] {one other result : α}
    {one' other' result' : β} (found : (if holds then one else other) = result)
    (whenTrue : holds → one = result → one' = result')
    (whenFalse : ¬holds → other = result → other' = result') :
    (if holds then one' else other') = result' := by
  split at found
  · rename_i isTrue
    rw [if_pos isTrue, whenTrue isTrue found]
  · rename_i isFalse
    rw [if_neg isFalse, whenFalse isFalse found]

theorem many_of_error {α : Type} {step : Step α} {progresses : step.Progresses}
    {tokens : List Token} {refusal : Refusal} (failed : step tokens = .error refusal) :
    many step progresses tokens = .error refusal := by
  refine (many.eq_def step progresses tokens).trans ?_
  split <;> rename_i equal <;> rw [failed] at equal <;> cases equal
  rfl

theorem many_of_none {α : Type} {step : Step α} {progresses : step.Progresses}
    {tokens : List Token} (none : step tokens = .ok none) :
    many step progresses tokens = .ok ([], tokens) := by
  refine (many.eq_def step progresses tokens).trans ?_
  split <;> rename_i equal <;> rw [none] at equal <;> cases equal

theorem many_of_some {α : Type} {step : Step α} {progresses : step.Progresses}
    {tokens rest : List Token} {value : α} (found : step tokens = .ok (some (value, rest))) :
    many step progresses tokens =
      (many step progresses rest).map fun (values, rest) => (value :: values, rest) := by
  refine (many.eq_def step progresses tokens).trans ?_
  split <;> rename_i equal <;> rw [found] at equal <;> cases equal
  cases many step progresses rest <;> rfl

/-- A property of all items that a step reads is a property of all items that its repetition
reads. -/
theorem forall_of_many {α : Type} {step : Step α} {progresses : step.Progresses}
    {property : α → Prop}
    (items : ∀ tokens value rest, step tokens = .ok (some (value, rest)) → property value)
    {tokens rest : List Token} {values : List α}
    (found : many step progresses tokens = .ok (values, rest)) :
    ∀ value ∈ values, property value := by
  fun_induction many step progresses tokens generalizing values rest with
  | case1 => cases found
  | case2 =>
    cases found
    simp
  | case3 => cases found
  | case4 tokens value next item values' rest' equation induction =>
    cases found
    intro other member
    rcases List.mem_cons.mp member with rfl | member
    · exact items _ _ _ item
    · exact induction equation other member

/-! ## The next token -/

section

variable {token : Token} {rest : List Token}

theorem nextIs_cons (kind : TokenKind) (token : Token) (rest : List Token) :
    nextIs kind (token :: rest) = (token.kind == kind) :=
  rfl

theorem nextIsWord_cons (keyword : String) (token : Token) (rest : List Token) :
    nextIsWord keyword (token :: rest) = token.isWord keyword :=
  rfl

theorem nextIs_of_kind {kind : TokenKind} (isKind : token.kind = kind) :
    nextIs kind (token :: rest) = true := by
  rw [nextIs_cons, isKind]
  exact beq_self_eq_true kind

theorem exists_of_nextIs {kind : TokenKind} {tokens : List Token}
    (next : nextIs kind tokens = true) : ∃ token rest, tokens = token :: rest ∧ token.kind = kind := by
  cases tokens with
  | nil => cases next
  | cons token rest => exact ⟨token, rest, rfl, beq_iff_eq.mp next⟩

theorem expectRightParen_of_kind (closes : token.kind = .rightParen) :
    expectRightParen (token :: rest) = .ok rest := by
  rw [expectRightParen, if_pos (nextIs_of_kind closes), List.tail_cons]

end

theorem exists_of_expectRightParen {tokens rest : List Token}
    (found : expectRightParen tokens = .ok rest) :
    ∃ paren, tokens = paren :: rest ∧ paren.kind = .rightParen := by
  unfold expectRightParen at found
  split at found
  · rename_i isParen
    cases found
    rcases exists_of_nextIs isParen with ⟨paren, rest, rfl, kind⟩
    exact ⟨paren, rfl, kind⟩
  · cases found

/-! ## Tables -/

theorem tableOptions_nil : tableOptions [] = .ok [] :=
  bind_eq_ok.mpr ⟨_, many_of_none rfl, rfl⟩

/-- Elements between parentheses, with nothing after them. -/
theorem tableDefinition_of_elements {opens close : Token} {tokens : List Token} {nodes : List Node}
    (isOpen : opens.kind = .leftParen) (isClose : close.kind = .rightParen)
    (found : tableElements tokens = .ok (nodes, [close])) :
    tableDefinition (opens :: tokens) = .ok (⟨nodes, Token.textTo (opens :: tokens) []⟩, []) := by
  rw [tableDefinition, if_pos (nextIs_of_kind isOpen), List.tail_cons]
  exact bind_eq_ok.mpr ⟨_, found, bind_eq_ok.mpr ⟨_, expectRightParen_of_kind isClose, rfl⟩⟩

/-! ## Scripts -/

theorem scan_eq_ok {source : String} {tokens : List Token} :
    Token.scan source = .ok tokens ↔ Token.scanFrom .origin 0 source.toList = (tokens, none) := by
  unfold Token.scan Token.scanUpToError
  obtain ⟨scanned, error⟩ := Token.scanFrom .origin 0 source.toList
  cases error <;> simp

theorem statements_nil (defaultSchema : String) : statements defaultSchema [] = .ok [] := by
  rw [statements.eq_def]

theorem statements_cons (defaultSchema : String) (token : Token) (rest : List Token) :
    statements defaultSchema (token :: rest) =
      if token.kind = .semicolon then statements defaultSchema rest
      else if token.endsBatch then statements defaultSchema (dropBatchCount rest)
      else if nextAreWords ["CREATE", "TABLE"] (token :: rest) then do
        let (statement, rest) ← createTable defaultSchema (token :: rest)
        (statements defaultSchema rest).map (.createTable statement :: ·)
      else
        let after := afterStatement token rest
        (statements defaultSchema after).map
          (.other (Token.textTo (token :: rest) after) :: ·) := by
  rw [statements.eq_def]
  dsimp only
  split
  · rfl
  split
  · rfl
  split
  · split
    · rename_i refused
      rw [refused]
      rfl
    · rename_i read
      rw [read]
      rfl
  · rfl

/-- A `CREATE TABLE` statement is the first of a script that begins with it. -/
theorem statements_of_createTable {defaultSchema : String} {tokens : List Token}
    (isTable : nextAreWords ["CREATE", "TABLE"] tokens = true) :
    statements defaultSchema tokens = (do
      let (statement, rest) ← createTable defaultSchema tokens
      (statements defaultSchema rest).map (.createTable statement :: ·)) := by
  cases tokens with
  | nil => cases isTable
  | cons token rest =>
    have isCreate : token.isWord "CREATE" = true := (Bool.and_eq_true_iff.mp isTable).1
    obtain ⟨isWord, same⟩ := Bool.and_eq_true_iff.mp isCreate
    have notSemicolon : token.kind ≠ .semicolon := by
      rw [beq_iff_eq.mp isWord]
      decide
    have goesOn : token.endsBatch = false := by
      have different : Text.equalIgnoringCase token.text "GO" = false := by
        refine Bool.eq_false_iff.mpr fun isGo => ?_
        rw [Text.equalIgnoringCase_iff] at isGo
        rw [Text.equalIgnoringCase_iff, isGo] at same
        revert same
        decide +kernel
      rw [Token.endsBatch, Token.isWord, different, Bool.and_false, Bool.false_and]
    rw [statements_cons, if_neg notSemicolon, goesOn, if_neg Bool.false_ne_true, if_pos isTable]

end SqlSchema.Grammar
