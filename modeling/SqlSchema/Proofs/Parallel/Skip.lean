import SqlSchema.Proofs.Parallel.Basic
import SqlSchema.Proofs.Reading

/-!
Passing over parallel lists: groups, unknown syntax and operator chains end at the same places in
both of them.
-/

namespace SqlSchema.Grammar.Parallel

variable {exchange : Exchange} {tokens tokens' rest : List Token}

/-! ## Groups -/

theorem of_closeGroup {depth : Nat} (parallel : Parallel exchange tokens tokens')
    (found : closeGroup depth tokens = .ok rest)
    (within : exchange.after.length < rest.length) :
    ∃ rest', closeGroup depth tokens' = .ok rest' ∧ Parallel exchange rest rest' := by
  induction parallel generalizing depth with
  | stop =>
    have shorter := length_of_closeGroup found
    simp at shorter
    omega
  | @cons start line token tokens tokens' _ parallel induction =>
    unfold closeGroup at found ⊢
    rw [Token.kind_relocated]
    generalize token.kind = kind at found ⊢
    split at found
    · exact induction found
    · cases found
      exact ⟨tokens', rfl, parallel⟩
    · exact induction found
    · exact induction found

theorem of_skipGroup (parallel : Parallel exchange tokens tokens')
    (found : skipGroup tokens = .ok rest) (within : exchange.after.length < rest.length) :
    ∃ rest', skipGroup tokens' = .ok rest' ∧ Parallel exchange rest rest' := by
  unfold skipGroup at found ⊢
  rw [parallel.nextIs_eq (by decide) (by decide)]
  split at found
  · rename_i isGroup
    rw [if_pos isGroup]
    have shorter := length_of_closeGroup found
    exact (parallel.tail (by omega)).of_closeGroup found within
  · cases found

theorem of_skipOptionalGroup (parallel : Parallel exchange tokens tokens')
    (found : skipOptionalGroup tokens = .ok rest)
    (within : exchange.after.length < rest.length) :
    ∃ rest', skipOptionalGroup tokens' = .ok rest' ∧ Parallel exchange rest rest' := by
  unfold skipOptionalGroup at found ⊢
  rw [parallel.nextIs_eq (by decide) (by decide)]
  split at found
  · rename_i isGroup
    rw [if_pos isGroup]
    exact parallel.of_skipGroup found within
  · rename_i noGroup
    cases found
    rw [if_neg noGroup]
    exact ⟨tokens', rfl, parallel⟩

/-! ## Unknown syntax -/

theorem skipElement_of_ends {token : Token} (ends : token.EndsElement) (tokens : List Token) :
    skipElement 0 (token :: tokens) = .ok (token :: tokens) := by
  unfold skipElement
  rcases ends with kind | kind <;> simp only [kind]

theorem of_skipElement {depth : Nat} (parallel : Parallel exchange tokens tokens')
    (found : skipElement depth tokens = .ok rest)
    (within : exchange.after.length < rest.length) :
    ∃ rest', skipElement depth tokens' = .ok rest' ∧ Parallel exchange rest rest' := by
  induction parallel generalizing depth with
  | stop isSuffix =>
    cases depth with
    | zero =>
      rw [skipElement_of_ends exchange.ends] at found
      cases found
      exact ⟨_, skipElement_of_ends exchange.newEnds _, stop isSuffix⟩
    | succ depth =>
      -- With a group open the end would be passed over.
      have shorter : rest.length ≤ exchange.after.length := by
        unfold skipElement at found
        rcases exchange.ends with kind | kind <;> rw [kind] at found <;>
          exact length_of_skipElement found
      omega
  | @cons start line token tokens tokens' isSuffix parallel induction =>
    have whole := cons start line isSuffix parallel
    unfold skipElement at found ⊢
    rw [Token.kind_relocated]
    generalize token.kind = kind at found ⊢
    split at found
    · cases found
      exact ⟨_, rfl, whole⟩
    · cases found
      exact ⟨_, rfl, whole⟩
    · exact induction found
    · exact induction found
    · exact induction found

theorem atElementEnd_of_ends {token : Token} (ends : token.EndsElement) (tokens : List Token) :
    atElementEnd (token :: tokens) = true := by
  rcases ends with kind | kind <;> simp [atElementEnd, nextIs, kind]

theorem of_skipUnknownOption {depth : Nat} (parallel : Parallel exchange tokens tokens')
    (found : skipUnknownOption depth tokens = .ok rest)
    (within : exchange.after.length < rest.length) :
    ∃ rest', skipUnknownOption depth tokens' = .ok rest' ∧ Parallel exchange rest rest' := by
  induction parallel generalizing depth with
  | stop isSuffix =>
    unfold skipUnknownOption at found ⊢
    rw [atElementEnd_of_ends exchange.ends, Bool.true_or, Bool.and_true] at found
    rw [atElementEnd_of_ends exchange.newEnds, Bool.true_or, Bool.and_true]
    split at found
    · rename_i closed
      cases found
      rw [if_pos closed]
      exact ⟨_, rfl, stop isSuffix⟩
    · have shorter : rest.length ≤ exchange.after.length := by
        rcases exchange.ends with kind | kind <;> rw [kind] at found <;>
          exact length_of_skipUnknownOption found
      omega
  | @cons start line token tokens tokens' isSuffix parallel induction =>
    have whole := cons start line isSuffix parallel
    unfold skipUnknownOption at found ⊢
    rw [whole.atElementEnd_eq, whole.atColumnOption_eq, Token.kind_relocated]
    split at found
    · rename_i ends
      cases found
      rw [if_pos ends]
      exact ⟨_, rfl, whole⟩
    · rename_i goesOn
      rw [if_neg goesOn]
      generalize token.kind = kind at found ⊢
      split at found
      · exact induction found
      · exact induction found
      · exact induction found

theorem of_unknownOption (parallel : Parallel exchange tokens tokens')
    (found : unknownOption tokens = .ok rest) (within : exchange.after.length < rest.length) :
    ∃ rest', unknownOption tokens' = .ok rest' ∧ Parallel exchange rest rest' := by
  cases parallel with
  | stop =>
    have shorter := length_of_unknownOption found
    simp at shorter
    omega
  | cons start line isSuffix parallel =>
    unfold unknownOption at found ⊢
    dsimp only at found ⊢
    rw [Token.kind_relocated]
    split at found
    · rename_i opens
      rw [if_pos opens]
      exact parallel.of_skipUnknownOption found within
    · rename_i opensNot
      rw [if_neg opensNot]
      exact parallel.of_skipUnknownOption found within

/-! ## Operator chains -/

theorem chainEndsAt_of_ends {token : Token} (ends : token.EndsElement) (before : Token)
    (tokens : List Token) : chainEndsAt before token tokens = true := by
  rcases ends with kind | kind <;> simp [chainEndsAt, kind]

theorem chainEndsAt_eq {start line start' line' : Nat} {before token : Token}
    (parallel : Parallel exchange tokens tokens') :
    chainEndsAt (before.relocated start line) (token.relocated start' line') tokens' =
      chainEndsAt before token tokens := by
  unfold chainEndsAt
  rw [parallel.nextIsWord_eq]
  rfl

theorem of_skipChain {depth start line : Nat} {before : Token}
    (parallel : Parallel exchange tokens tokens')
    (within : exchange.after.length < (skipChain depth before tokens).length) :
    Parallel exchange (skipChain depth before tokens)
      (skipChain depth (before.relocated start line) tokens') := by
  induction parallel generalizing depth before start line with
  | stop isSuffix =>
    unfold skipChain at within ⊢
    rw [chainEndsAt_of_ends exchange.ends, Bool.and_true] at within ⊢
    rw [chainEndsAt_of_ends exchange.newEnds, Bool.and_true]
    split at within
    · rename_i closed
      rw [if_pos closed, if_pos closed]
      exact stop isSuffix
    · have shorter := length_skipChain_le (chainDepth depth exchange.stop) exchange.stop
        exchange.after
      omega
  | @cons newStart newLine token tokens tokens' isSuffix parallel induction =>
    unfold skipChain at within ⊢
    rw [chainEndsAt_eq parallel]
    split at within
    · rename_i ends
      rw [if_pos ends, if_pos ends]
      exact cons newStart newLine isSuffix parallel
    · rename_i goesOn
      rw [if_neg goesOn, if_neg goesOn]
      exact induction within

theorem atOperator_eq (parallel : Parallel exchange tokens tokens') :
    atOperator tokens' = atOperator tokens := by
  cases parallel with
  | stop =>
    simp [atOperator, exchange.ends.kind_beq_eq_false, exchange.newEnds.kind_beq_eq_false,
      exchange.ends.isWordIn_eq_false, exchange.newEnds.isWordIn_eq_false,
      exchange.ends.isWord_eq_false, exchange.newEnds.isWord_eq_false]
  | cons _ _ _ parallel =>
    simp only [atOperator]
    rw [parallel.nextIsWordIn_eq]
    rfl

theorem afterOperators?_of_none (parallel : Parallel exchange tokens tokens')
    (none : afterOperators? tokens = none) : afterOperators? tokens' = Option.none := by
  have same := parallel.atOperator_eq
  cases parallel with
  | stop | cons =>
    simp only [afterOperators?] at none ⊢
    rw [same]
    split at none
    · cases none
    · rename_i noOperator
      exact if_neg noOperator

theorem of_afterOperators? (parallel : Parallel exchange tokens tokens')
    (found : afterOperators? tokens = some rest)
    (within : exchange.after.length < rest.length) :
    ∃ rest', afterOperators? tokens' = some rest' ∧ Parallel exchange rest rest' := by
  have same := parallel.atOperator_eq
  cases parallel with
  | stop =>
    have shorter := length_of_afterOperators? found
    simp at shorter
    omega
  | cons start line isSuffix parallel =>
    simp only [afterOperators?] at found ⊢
    rw [same]
    split at found
    · rename_i operator
      cases found
      rw [if_pos operator]
      exact ⟨_, rfl, parallel.of_skipChain within⟩
    · cases found

end SqlSchema.Grammar.Parallel
