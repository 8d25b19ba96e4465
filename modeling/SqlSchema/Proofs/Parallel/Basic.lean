import SqlSchema.Grammar.Skip

/-!
Token lists that agree up to the end of an element. What follows that end is exchanged for something
else; no reader that stops there or earlier can tell the two lists apart, as long as it stops within
them.
-/

namespace SqlSchema

/-! ## Tokens -/

namespace Token

/-- The token at another place. -/
def relocated (start line : Nat) (token : Token) : Token :=
  { token with start, line }

section

variable (start line : Nat) (token : Token)

@[simp] theorem kind_relocated : (token.relocated start line).kind = token.kind :=
  rfl

@[simp] theorem text_relocated : (token.relocated start line).text = token.text :=
  rfl

@[simp] theorem lead_relocated : (token.relocated start line).lead = token.lead :=
  rfl

@[simp] theorem isWord_relocated (keyword : String) :
    (token.relocated start line).isWord keyword = token.isWord keyword :=
  rfl

@[simp] theorem isWordIn_relocated (keywords : List String) :
    (token.relocated start line).isWordIn keywords = token.isWordIn keywords :=
  rfl

@[simp] theorem isName_relocated : (token.relocated start line).isName = token.isName :=
  rfl

@[simp] theorem name_relocated : (token.relocated start line).name = token.name :=
  rfl

end

theorem written_cons (token : Token) (tokens : List Token) :
    written (token :: tokens) = token.lead ++ token.text ++ written tokens := by
  simp [written, String.join_cons]

/-- Whether an element of a list ends before the token. -/
def EndsElement (token : Token) : Prop :=
  token.kind = .comma ∨ token.kind = .rightParen

namespace EndsElement

variable {token : Token} (ends : token.EndsElement)
include ends

theorem kind_beq_eq_false {kind : TokenKind} (notComma : kind ≠ .comma)
    (notParen : kind ≠ .rightParen) : (token.kind == kind) = false := by
  rcases ends with comma | paren
  · rw [comma]
    exact beq_eq_false_iff_ne.mpr notComma.symm
  · rw [paren]
    exact beq_eq_false_iff_ne.mpr notParen.symm

theorem isWord_eq_false (keyword : String) : token.isWord keyword = false := by
  simp [isWord, ends.kind_beq_eq_false]

theorem isWordIn_eq_false (keywords : List String) : token.isWordIn keywords = false := by
  simp [isWordIn, ends.isWord_eq_false]

theorem isName_eq_false : token.isName = false := by
  simp [isName, ends.kind_beq_eq_false]

end EndsElement

theorem not_endsElement_of_kind {token : Token} {kind : TokenKind} (isKind : token.kind = kind)
    (notComma : kind ≠ .comma) (notParen : kind ≠ .rightParen) : ¬token.EndsElement := by
  intro ends
  have different := ends.kind_beq_eq_false notComma notParen
  simp [isKind] at different

theorem not_endsElement_of_isName {token : Token} (isName : token.isName = true) :
    ¬token.EndsElement := by
  intro ends
  simp [ends.isName_eq_false] at isName

end Token

namespace Grammar

/-- An end of an element in a list of tokens, and what it is exchanged for. -/
structure Exchange where
  /-- The tokens with the end. -/
  whole : List Token
  stop : Token
  after : List Token
  ends : stop.EndsElement
  newStop : Token
  newAfter : List Token
  newEnds : newStop.EndsElement

/-- Whether two lists agree up to the end of an element and go on with what is exchanged. -/
inductive Parallel (exchange : Exchange) : List Token → List Token → Prop
  | stop (isSuffix : exchange.stop :: exchange.after <:+ exchange.whole) :
    Parallel exchange (exchange.stop :: exchange.after) (exchange.newStop :: exchange.newAfter)
  | cons (start line : Nat) {token : Token} {tokens tokens' : List Token}
    (isSuffix : token :: tokens <:+ exchange.whole) (rest : Parallel exchange tokens tokens') :
    Parallel exchange (token :: tokens) (token.relocated start line :: tokens')

namespace Parallel

variable {exchange : Exchange} {tokens tokens' : List Token}

theorem isSuffix (parallel : Parallel exchange tokens tokens') : tokens <:+ exchange.whole := by
  cases parallel <;> assumption

theorem length_lt (parallel : Parallel exchange tokens tokens') :
    exchange.after.length < tokens.length := by
  induction parallel with
  | stop => simp
  | cons _ _ _ _ induction => simp; omega

theorem length_eq (parallel : Parallel exchange tokens tokens') :
    tokens'.length + exchange.after.length = tokens.length + exchange.newAfter.length := by
  induction parallel with
  | stop => simp; omega
  | cons _ _ _ _ induction => simp; omega

/-- What a list with an end becomes when its tokens are relocated and its end is exchanged. -/
theorem of_map {relocate : Token → Token}
    (relocates : ∀ token, ∃ start line, relocate token = token.relocated start line)
    {front : List Token}
    (isSuffix : front ++ exchange.stop :: exchange.after <:+ exchange.whole) :
    Parallel exchange (front ++ exchange.stop :: exchange.after)
      (front.map relocate ++ exchange.newStop :: exchange.newAfter) := by
  induction front with
  | nil => exact .stop isSuffix
  | cons token front induction =>
    obtain ⟨start, line, equal⟩ := relocates token
    rw [List.map_cons, equal]
    exact .cons start line isSuffix (induction ((List.suffix_cons _ _).trans isSuffix))

/-- Within the lists, the next token is not the end. -/
theorem tail (parallel : Parallel exchange tokens tokens')
    (within : exchange.after.length < tokens.tail.length) :
    Parallel exchange tokens.tail tokens'.tail := by
  cases parallel with
  | stop => simp at within
  | cons _ _ _ rest => exact rest

theorem drop (parallel : Parallel exchange tokens tokens') {count : Nat}
    (within : exchange.after.length < (tokens.drop count).length) :
    Parallel exchange (tokens.drop count) (tokens'.drop count) := by
  induction count generalizing tokens tokens' with
  | zero => exact parallel
  | succ count induction =>
    have first : exchange.after.length < tokens.tail.length := by
      simp at within ⊢
      omega
    rw [← List.drop_tail] at within
    simpa [List.drop_tail] using induction (parallel.tail first) within

theorem eq_stop_or_cons (parallel : Parallel exchange tokens tokens') :
    tokens = exchange.stop :: exchange.after ∧ tokens' = exchange.newStop :: exchange.newAfter ∨
      ∃ start line token rest rest', tokens = token :: rest ∧
        tokens' = token.relocated start line :: rest' ∧ Parallel exchange rest rest' := by
  cases parallel with
  | stop => exact .inl ⟨rfl, rfl⟩
  | cons start line _ parallel => exact .inr ⟨start, line, _, _, _, rfl, rfl, parallel⟩

theorem exists_cons (parallel : Parallel exchange tokens tokens')
    (within : exchange.after.length + 1 < tokens.length) :
    ∃ start line token rest rest', tokens = token :: rest ∧
      tokens' = token.relocated start line :: rest' ∧ Parallel exchange rest rest' := by
  rcases parallel.eq_stop_or_cons with ⟨rfl, _⟩ | cons
  · exact absurd within (Nat.lt_irrefl _)
  · exact cons

/-- A token that ends no element is in both lists. -/
theorem uncons {token : Token} (parallel : Parallel exchange (token :: tokens) tokens')
    (goesOn : ¬token.EndsElement) :
    ∃ start line rest, tokens' = token.relocated start line :: rest ∧
      Parallel exchange tokens rest := by
  cases parallel with
  | stop => exact absurd exchange.ends goesOn
  | cons start line _ parallel => exact ⟨start, line, _, rfl, parallel⟩

/-- A token with the end after it is in both lists. -/
theorem uncons_of_within {token : Token} (parallel : Parallel exchange (token :: tokens) tokens')
    (within : exchange.after.length < tokens.length) :
    ∃ start line rest, tokens' = token.relocated start line :: rest ∧
      Parallel exchange tokens rest := by
  cases parallel with
  | stop => exact absurd within (Nat.lt_irrefl _)
  | cons start line _ parallel => exact ⟨start, line, _, rfl, parallel⟩

/-! ## Looking ahead -/

theorem nextIsWord_eq (parallel : Parallel exchange tokens tokens') (keyword : String) :
    nextIsWord keyword tokens' = nextIsWord keyword tokens := by
  cases parallel with
  | stop => simp [nextIsWord, exchange.ends.isWord_eq_false, exchange.newEnds.isWord_eq_false]
  | cons => simp [nextIsWord]

theorem nextIsWordIn_eq (parallel : Parallel exchange tokens tokens') (keywords : List String) :
    nextIsWordIn keywords tokens' = nextIsWordIn keywords tokens := by
  cases parallel with
  | stop =>
    simp [nextIsWordIn, exchange.ends.isWordIn_eq_false, exchange.newEnds.isWordIn_eq_false]
  | cons => simp [nextIsWordIn]

theorem nextAreWords_eq (parallel : Parallel exchange tokens tokens') (keywords : List String) :
    nextAreWords keywords tokens' = nextAreWords keywords tokens := by
  induction keywords generalizing tokens tokens' with
  | nil => simp [nextAreWords]
  | cons keyword keywords induction =>
    cases parallel with
    | stop => simp [nextAreWords, exchange.ends.isWord_eq_false, exchange.newEnds.isWord_eq_false]
    | cons _ _ _ rest => simp [nextAreWords, induction rest]

theorem nextIsName_eq (parallel : Parallel exchange tokens tokens') :
    nextIsName tokens' = nextIsName tokens := by
  cases parallel with
  | stop => simp [nextIsName, exchange.ends.isName_eq_false, exchange.newEnds.isName_eq_false]
  | cons => simp [nextIsName]

theorem nextIs_eq (parallel : Parallel exchange tokens tokens') {kind : TokenKind}
    (notComma : kind ≠ .comma) (notParen : kind ≠ .rightParen) :
    nextIs kind tokens' = nextIs kind tokens := by
  cases parallel with
  | stop =>
    simp [nextIs, exchange.ends.kind_beq_eq_false notComma notParen,
      exchange.newEnds.kind_beq_eq_false notComma notParen]
  | cons => simp [nextIs]

theorem tail_of_nextIs (parallel : Parallel exchange tokens tokens') {kind : TokenKind}
    (next : nextIs kind tokens = true) (notComma : kind ≠ .comma) (notParen : kind ≠ .rightParen) :
    Parallel exchange tokens.tail tokens'.tail := by
  cases parallel with
  | stop => simp [nextIs, exchange.ends.kind_beq_eq_false notComma notParen] at next
  | cons _ _ _ parallel => exact parallel

/-- Before the end the next tokens are of the same class. -/
theorem nextIs_eq_of_within (parallel : Parallel exchange tokens tokens')
    (within : exchange.after.length < tokens.tail.length) (kind : TokenKind) :
    nextIs kind tokens' = nextIs kind tokens := by
  cases parallel with
  | stop => simp at within
  | cons => simp [nextIs]

theorem atElementEnd_eq (parallel : Parallel exchange tokens tokens') :
    atElementEnd tokens' = atElementEnd tokens := by
  cases parallel with
  | stop =>
    rcases exchange.ends with ends | ends <;> rcases exchange.newEnds with newEnds | newEnds <;>
      simp [atElementEnd, nextIs, ends, newEnds]
  | cons => simp [atElementEnd, nextIs]

theorem atColumnOption_eq (parallel : Parallel exchange tokens tokens') :
    atColumnOption tokens' = atColumnOption tokens := by
  rw [atColumnOption, atColumnOption, parallel.nextIsWordIn_eq, parallel.nextAreWords_eq]

/-! ## Texts -/

theorem written_take_eq (parallel : Parallel exchange tokens tokens') (count : Nat)
    (within : count + exchange.after.length < tokens.length) :
    Token.written (tokens'.take count) = Token.written (tokens.take count) := by
  induction count generalizing tokens tokens' with
  | zero => simp
  | succ count induction =>
    cases parallel with
    | stop =>
      rw [List.length_cons] at within
      omega
    | cons _ _ _ rest =>
      have same := induction rest (by simp at within; omega)
      simp [Token.written_cons, same]

/-- The text between two places is the same in both lists. -/
theorem textTo_eq (parallel : Parallel exchange tokens tokens') {rest rest' : List Token}
    (parallelRest : Parallel exchange rest rest') :
    Token.textTo tokens' rest' = Token.textTo tokens rest := by
  have length := parallel.length_eq
  have lengthRest := parallelRest.length_eq
  have within := parallelRest.length_lt
  have count : tokens'.length - rest'.length = tokens.length - rest.length := by omega
  unfold Token.textTo Token.run
  rw [count]
  cases parallel with
  | stop =>
    have zero : (exchange.stop :: exchange.after).length - rest.length = 0 := by simp; omega
    rw [zero]
    rfl
  | cons _ _ _ parallel =>
    cases fewer : (_ :: _).length - rest.length with
    | zero => rfl
    | succ count =>
      have same := parallel.written_take_eq count (by simp at fewer; omega)
      simp [Token.textOf, same]

/-! ## Branches -/

/-- A reader that looks the same way in both lists takes the same branch in both. -/
theorem of_branch {α : Type} {holds : Prop} [Decidable holds]
    {first second first' second' : Except Refusal α} {make : List Token → α} {rest : List Token}
    (found : (if holds then first else second) = .ok (make rest))
    (whenTrue : holds → first = .ok (make rest) →
      ∃ rest', first' = .ok (make rest') ∧ Parallel exchange rest rest')
    (whenFalse : ¬holds → second = .ok (make rest) →
      ∃ rest', second' = .ok (make rest') ∧ Parallel exchange rest rest') :
    ∃ rest', (if holds then first' else second') = .ok (make rest') ∧
      Parallel exchange rest rest' := by
  split at found
  · rename_i isTrue
    rw [if_pos isTrue]
    exact whenTrue isTrue found
  · rename_i isFalse
    rw [if_neg isFalse]
    exact whenFalse isFalse found

/-! ## What readers make of what they have read -/

section

variable {α β : Type} {start start' rest : List Token}

theorem of_wrapping {read read' : Except Refusal (β × List Token)} (make : β → α) {value : α}
    (found : (read >>= fun result => .ok (make result.1, result.2)) = .ok (value, rest))
    (reads : ∀ inner, read = .ok (inner, rest) →
      ∃ rest', read' = .ok (inner, rest') ∧ Parallel exchange rest rest') :
    ∃ rest', (read' >>= fun result => .ok (make result.1, result.2)) = .ok (value, rest') ∧
      Parallel exchange rest rest' := by
  cases result : read with
  | error refusal =>
    rw [result] at found
    cases found
  | ok after =>
    rw [result] at found
    cases found
    obtain ⟨rest', result', parallelRest⟩ := reads _ result
    exact ⟨rest', by rw [result']; rfl, parallelRest⟩

/-- A value that quotes the text up to where a reader stops. -/
theorem of_quoting {read read' : Except Refusal (List Token)} (make : String → α) {value : α}
    (whole : Parallel exchange start start')
    (found : (read >>= fun rest => .ok (make (Token.textTo start rest), rest)) = .ok (value, rest))
    (reads : read = .ok rest → ∃ rest', read' = .ok rest' ∧ Parallel exchange rest rest') :
    ∃ rest', (read' >>= fun rest => .ok (make (Token.textTo start' rest), rest)) =
        .ok (value, rest') ∧ Parallel exchange rest rest' := by
  cases result : read with
  | error refusal =>
    rw [result] at found
    cases found
  | ok after =>
    rw [result] at found
    cases found
    obtain ⟨rest', result', parallelRest⟩ := reads result
    refine ⟨rest', ?_, parallelRest⟩
    rw [result', ← whole.textTo_eq parallelRest]
    rfl

theorem of_quoting_value {read read' : Except Refusal (β × List Token)} (make : β → String → α)
    {value : α} (whole : Parallel exchange start start')
    (found : (read >>= fun result => .ok (make result.1 (Token.textTo start result.2), result.2)) =
      .ok (value, rest))
    (reads : ∀ inner, read = .ok (inner, rest) →
      ∃ rest', read' = .ok (inner, rest') ∧ Parallel exchange rest rest') :
    ∃ rest', (read' >>= fun result =>
        .ok (make result.1 (Token.textTo start' result.2), result.2)) = .ok (value, rest') ∧
      Parallel exchange rest rest' := by
  cases result : read with
  | error refusal =>
    rw [result] at found
    cases found
  | ok after =>
    rw [result] at found
    cases found
    obtain ⟨rest', result', parallelRest⟩ := reads _ result
    refine ⟨rest', ?_, parallelRest⟩
    rw [result', ← whole.textTo_eq parallelRest]
    rfl

end

end Parallel

end Grammar

end SqlSchema
