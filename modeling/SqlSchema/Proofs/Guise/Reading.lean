import SqlSchema.Proofs.Guise.Basic
import SqlSchema.Proofs.Reading

/-!
Readers of single tokens, repetition, syntax that is passed over, and data types in another guise.
A reader without nodes reads in the guise what it reads, in the guise; a reader of nodes reads what
resembles it.
-/

namespace SqlSchema

/-- Whether both readers refuse the same token, or read related values and leave the same tokens,
the second in the guise of the first. -/
abbrev Guise.Reads (guise : Guise) {α : Type} (values : α → α → Prop) :
    Except Grammar.Refusal (α × List Token) → Except Grammar.Refusal (α × List Token) → Prop :=
  SameOutcome (fun first second => values first.1 second.1 ∧ second.2 = see guise first.2)
    fun first second => second = see guise first

namespace Grammar

variable (guise : Guise) (tokens : List Token)

/-! ## Results -/

section

variable {α β : Type} [Guised α] [Guised β]

theorem see_ok (value : α) :
    see guise (.ok value : Except Refusal α) = .ok (see guise value) :=
  rfl

theorem see_error (refusal : Refusal) :
    see guise (.error refusal : Except Refusal α) = .error (see guise refusal) :=
  rfl

theorem see_refuse (wanted : Wanted) :
    refuse wanted (see guise tokens) = see guise (refuse wanted tokens : Except Refusal α) := by
  rw [refuse, Guise.head?_see]
  rfl

/-- One reader without nodes after the other. -/
theorem see_bind {guise : Guise} {result : Except Refusal α} {next next' : α → Except Refusal β}
    (same : ∀ value, next' (see guise value) = see guise (next value)) :
    (see guise result >>= next') = see guise (result >>= next) := by
  cases result with
  | error refusal => rfl
  | ok value => exact same value

end

/-- A reader of nodes after one without. -/
theorem reads_bind_see {α β : Type} [Guised α] {guise : Guise} {related : β → β → Prop}
    {result : Except Refusal α} {next next' : α → Except Refusal β}
    (same : ∀ value, result = .ok value →
      SameOutcome related (fun first second => second = see guise first) (next value)
        (next' (see guise value))) :
    SameOutcome related (fun first second => second = see guise first) (result >>= next)
      (see guise result >>= next') := by
  cases result with
  | error refusal => exact .error rfl
  | ok value => exact same value rfl

/-- A reader of nodes after another. -/
theorem reads_bind {α β : Type} {guise : Guise} {values : α → α → Prop} {related : β → β → Prop}
    {result result' : Except Refusal (α × List Token)}
    {next next' : α × List Token → Except Refusal β} (outcome : guise.Reads values result result')
    (same : ∀ value value' rest, result = .ok (value, rest) → values value value' →
      SameOutcome related (fun first second => second = see guise first) (next (value, rest))
        (next' (value', see guise rest))) :
    SameOutcome related (fun first second => second = see guise first) (result >>= next)
      (result' >>= next') := by
  refine outcome.bind ?_
  rintro ⟨value, rest⟩ ⟨value', rest'⟩ found ⟨sameValue, rfl⟩
  exact same value value' rest found sameValue

theorem reads_refuse {β : Type} {related : β → β → Prop} (wanted : Wanted) :
    SameOutcome related (fun first second => second = see guise first) (refuse wanted tokens)
      (refuse wanted (see guise tokens)) := by
  refine .error ?_
  rw [Guise.head?_see]
  rfl

/-- Whether both steps refuse the same token, read related items or find none. -/
abbrev StepsRead {α : Type} (guise : Guise) (values : α → α → Prop) :
    Except Refusal (Option (α × List Token)) → Except Refusal (Option (α × List Token)) → Prop :=
  SameOutcome
    (Option.Rel fun first second => values first.1 second.1 ∧ second.2 = see guise first.2)
    fun first second => second = see guise first

/-- All items that a step reads, if it reads each of them in the guise. -/
theorem many_reads {α : Type} {guise : Guise} {values : α → α → Prop} {step : Step α}
    {progresses : step.Progresses}
    (same : ∀ tokens, StepsRead guise values (step tokens) (step (see guise tokens)))
    (tokens : List Token) :
    guise.Reads (List.Forall₂ values) (many step progresses tokens)
      (many step progresses (see guise tokens)) := by
  -- What the step yields here decides what it yields in the guise, so both loops take one turn.
  have here := same tokens
  generalize found' : step (see guise tokens) = result' at here
  cases found : step tokens with
  | error refusal =>
    rw [found] at here
    cases here with
    | error related =>
      rw [many_of_error found, many_of_error found']
      exact .error related
  | ok item =>
    rw [found] at here
    cases here with
    | ok related =>
      cases related with
      | none =>
        rw [many_of_none found, many_of_none found']
        exact .ok ⟨.nil, rfl⟩
      | @some first second related =>
        obtain ⟨value, rest⟩ := first
        obtain ⟨value', rest'⟩ := second
        obtain ⟨sameValue, rfl⟩ := related
        have shorter := progresses found
        rw [many_of_some found, many_of_some found']
        refine (many_reads same rest).map ?_
        rintro ⟨values, rest⟩ ⟨values', rest'⟩ ⟨sameValues, sameRest⟩
        exact ⟨.cons sameValue sameValues, sameRest⟩
termination_by tokens.length

/-! ## The next token -/

section

@[simp] theorem nextIsWord_see (keyword : String) :
    nextIsWord keyword (see guise tokens) = nextIsWord keyword tokens := by
  cases tokens <;> simp [nextIsWord]

@[simp] theorem nextIsWordIn_see (keywords : List String) :
    nextIsWordIn keywords (see guise tokens) = nextIsWordIn keywords tokens := by
  cases tokens <;> simp [nextIsWordIn]

@[simp] theorem nextIs_see (kind : TokenKind) :
    nextIs kind (see guise tokens) = nextIs kind tokens := by
  cases tokens <;> simp [nextIs]

@[simp] theorem nextIsName_see :
    nextIsName (see guise tokens) = nextIsName tokens := by
  cases tokens <;> simp [nextIsName]

@[simp] theorem nextAreWords_see (keywords : List String) :
    nextAreWords keywords (see guise tokens) = nextAreWords keywords tokens := by
  induction keywords generalizing tokens with
  | nil => simp [nextAreWords]
  | cons keyword keywords induction => cases tokens <;> simp [nextAreWords, induction]

@[simp] theorem atElementEnd_see :
    atElementEnd (see guise tokens) = atElementEnd tokens := by
  simp [atElementEnd]

@[simp] theorem atColumnOption_see :
    atColumnOption (see guise tokens) = atColumnOption tokens := by
  simp [atColumnOption]

/-! ## Single tokens -/

@[simp] theorem dropWord_see (keyword : String) :
    dropWord keyword (see guise tokens) = see guise (dropWord keyword tokens) := by
  unfold dropWord
  rw [nextIsWord_see, Guise.tail_see]
  split <;> rfl

@[simp] theorem expectWord_see (keyword : String) :
    expectWord keyword (see guise tokens) =
      see guise (expectWord keyword tokens) := by
  unfold expectWord
  rw [nextIsWord_see, Guise.tail_see]
  split
  · rfl
  · exact see_refuse guise tokens _

@[simp] theorem expectRightParen_see :
    expectRightParen (see guise tokens) = see guise (expectRightParen tokens) := by
  unfold expectRightParen
  rw [nextIs_see, Guise.tail_see]
  split
  · rfl
  · exact see_refuse guise tokens _

@[simp] theorem name_see :
    name (see guise tokens) = see guise (name tokens) := by
  cases tokens with
  | nil => rfl
  | cons token rest =>
    simp only [Guise.see_cons, name, Token.isName_see, Token.name_see]
    split <;> rfl

end

/-! ## Groups and unknown syntax -/

theorem closeGroup_see (depth : Nat) :
    closeGroup depth (see guise tokens) = see guise (closeGroup depth tokens) := by
  induction tokens generalizing depth with
  | nil => rfl
  | cons token rest induction =>
    rw [Guise.see_cons]
    unfold closeGroup
    rw [Token.kind_see]
    generalize token.kind = kind
    split
    · exact induction _
    · rfl
    · exact induction _
    · exact induction _

@[simp] theorem skipGroup_see :
    skipGroup (see guise tokens) = see guise (skipGroup tokens) := by
  unfold skipGroup
  rw [nextIs_see, Guise.tail_see]
  split
  · exact closeGroup_see guise _ 0
  · exact see_refuse guise tokens _

@[simp] theorem skipOptionalGroup_see :
    skipOptionalGroup (see guise tokens) = see guise (skipOptionalGroup tokens) := by
  unfold skipOptionalGroup
  rw [nextIs_see, skipGroup_see]
  split <;> rfl

theorem skipElement_see (depth : Nat) :
    skipElement depth (see guise tokens) = see guise (skipElement depth tokens) := by
  induction tokens generalizing depth with
  | nil => cases depth <;> rfl
  | cons token rest induction =>
    rw [Guise.see_cons]
    unfold skipElement
    rw [Token.kind_see]
    generalize token.kind = kind
    split
    · rfl
    · rfl
    · exact induction _
    · exact induction _
    · exact induction _

theorem skipUnknownOption_see (depth : Nat) :
    skipUnknownOption depth (see guise tokens) =
      see guise (skipUnknownOption depth tokens) := by
  induction tokens generalizing depth with
  | nil => cases depth <;> rfl
  | cons token rest induction =>
    rw [Guise.see_cons]
    unfold skipUnknownOption
    rw [← Guise.see_cons, atElementEnd_see, atColumnOption_see,
      Token.kind_see]
    split
    · rfl
    · generalize token.kind = kind
      split
      · exact induction _
      · exact induction _
      · exact induction _

@[simp] theorem unknownOption_see :
    unknownOption (see guise tokens) = see guise (unknownOption tokens) := by
  cases tokens with
  | nil => rfl
  | cons token rest =>
    simp only [Guise.see_cons, unknownOption, Token.kind_see,
      skipUnknownOption_see]
    split <;> rfl

/-! ## Operator chains -/

@[simp] theorem chainEndsAt_see (before token : Token) (rest : List Token) :
    chainEndsAt (see guise before) (see guise token) (see guise rest) =
      chainEndsAt before token rest := by
  simp [chainEndsAt, continuesIntoNull]

theorem skipChain_see (depth : Nat) (before : Token) :
    skipChain depth (see guise before) (see guise tokens) =
      see guise (skipChain depth before tokens) := by
  induction tokens generalizing depth before with
  | nil => rfl
  | cons token rest induction =>
    have sameDepth : chainDepth depth (see guise token) = chainDepth depth token := by
      simp [chainDepth]
    rw [Guise.see_cons]
    unfold skipChain
    rw [chainEndsAt_see, sameDepth, induction]
    split <;> rfl

@[simp] theorem atOperator_see :
    atOperator (see guise tokens) = atOperator tokens := by
  cases tokens <;> simp [atOperator]

@[simp] theorem afterOperators?_see :
    afterOperators? (see guise tokens) = see guise (afterOperators? tokens) := by
  cases tokens with
  | nil => rfl
  | cons token rest =>
    rw [Guise.see_cons, afterOperators?, ← Guise.see_cons, atOperator_see,
      skipChain_see, afterOperators?]
    split <;> rfl

/-! ## Data types -/

@[simp] theorem dottedParts_see :
    dottedParts (see guise tokens) = see guise (dottedParts tokens) := by
  fun_induction dottedParts tokens with
  | case1 => rfl
  | case2 dot isDot =>
    simp only [Guise.see_cons, Guise.see_nil, dottedParts, Token.kind_see,
      if_pos isDot]
    exact see_refuse guise [] _
  | case3 dot isDot part rest isName parts after found induction =>
    simp only [Guise.see_cons, dottedParts, Token.kind_see, if_pos isDot,
      Token.isName_see, if_pos isName, Token.name_see, induction, found, see_ok,
      Guise.see_mk]
  | case4 dot isDot part rest isName refusal failed induction =>
    simp only [Guise.see_cons, dottedParts, Token.kind_see, if_pos isDot,
      Token.isName_see, if_pos isName, induction, failed, see_error]
  | case5 dot isDot part rest noName =>
    simp only [Guise.see_cons, dottedParts, Token.kind_see, if_pos isDot,
      Token.isName_see, if_neg noName]
    exact see_refuse guise (part :: rest) _
  | case6 token rest noDot =>
    rw [Guise.see_cons, dottedParts.eq_def]
    simp only [Token.kind_see, if_neg noDot]
    rfl

theorem readUInt32?_see (text : String) : readUInt32? (see guise text) = readUInt32? text :=
  guise.readUInt32?_text text

theorem typeArgument?_see (token : Token) :
    typeArgument? (see guise token) = typeArgument? token := by
  simp [typeArgument?, readUInt32?_see]

theorem typeArgumentList?_see :
    typeArgumentList? (see guise tokens) =
      (typeArgumentList? tokens).map fun (arguments, rest) =>
        (arguments, see guise rest) := by
  fun_induction typeArgumentList? tokens with
  | case1 token separator rest none =>
    simp only [Guise.see_cons, typeArgumentList?, typeArgument?_see, none,
      Option.map_none]
  | case2 token separator rest argument found isComma induction =>
    simp only [Guise.see_cons, typeArgumentList?, typeArgument?_see, found,
      Token.kind_see, if_pos isComma, induction, Option.map_map]
    rfl
  | case3 token separator rest argument found noComma isParen =>
    simp only [Guise.see_cons, typeArgumentList?, typeArgument?_see, found,
      Token.kind_see, if_neg noComma, if_pos isParen, Option.map_some]
  | case4 token separator rest argument found noComma noParen =>
    simp only [Guise.see_cons, typeArgumentList?, typeArgument?_see, found,
      Token.kind_see, if_neg noComma, if_neg noParen, Option.map_none]
  | case5 tokens short =>
    cases tokens with
    | nil => rfl
    | cons token tokens =>
      cases tokens with
      | nil => rfl
      | cons separator rest => exact absurd rfl (short token separator rest)

@[simp] theorem typeGroup_see :
    typeGroup (see guise tokens) = see guise (typeGroup tokens) := by
  have arguments : typeArguments? (see guise tokens.tail) =
      see guise (typeArguments? tokens.tail) := by
    unfold typeArguments?
    rw [typeArgumentList?_see]
    cases typeArgumentList? tokens.tail with
    | none => rfl
    | some found =>
      simp only [Option.map_some]
      split <;> simp
  unfold typeGroup
  rw [nextIs_see, Guise.tail_see, arguments, skipGroup_see]
  split
  · cases typeArguments? tokens.tail with
    | some found => rfl
    | none => cases skipGroup tokens <;> simp [see_ok, see_error]
  · simp [see_ok]

theorem dataType_reads :
    guise.Reads (DataType.Resembles guise) (dataType tokens) (dataType (see guise tokens)) := by
  unfold dataType
  rw [name_see]
  refine reads_bind_see ?_
  rintro ⟨first, rest⟩ -
  simp only [Guise.see_mk, dottedParts_see]
  refine reads_bind_see ?_
  rintro ⟨parts, rest⟩ -
  simp only [Guise.see_mk, typeGroup_see]
  refine reads_bind_see ?_
  rintro ⟨numbers, isMaximum, rest⟩ -
  simp only [Guise.see_mk, Guise.see_numbers, Guise.see_bool, ← Guise.see_cons, Guise.dropLast_see,
    Guise.getLast?_see]
  rw [Guise.getLast_see guise (List.cons_ne_nil first parts)]
  exact .ok ⟨⟨rfl, rfl, rfl, rfl, rfl, Token.shows_textTo guise tokens rest⟩, rfl⟩

end Grammar

end SqlSchema
