import SqlSchema.Proofs.Parallel.Element
import Mathlib.Data.List.Infix

/-!
Balanced parentheses. The options of a table and the empty statements of a script close as many
groups as they open, so a `)` that closes a balanced list of elements is the one that their table
ends at.
-/

namespace SqlSchema

namespace TokenKind

/-- What a token of this class adds to the number of open groups. -/
def surplus : TokenKind → Int
  | leftParen => 1
  | rightParen => -1
  | _ => 0

theorem surplus_eq_zero {kind : TokenKind} (notLeft : kind ≠ .leftParen)
    (notRight : kind ≠ .rightParen) : kind.surplus = 0 := by
  cases kind <;> first | rfl | contradiction

end TokenKind

namespace Token

/-- How many more parentheses the tokens open than they close. -/
def surplus : List Token → Int
  | [] => 0
  | token :: tokens => token.kind.surplus + surplus tokens

@[simp] theorem surplus_nil : surplus [] = 0 :=
  rfl

@[simp] theorem surplus_cons (token : Token) (tokens : List Token) :
    surplus (token :: tokens) = token.kind.surplus + surplus tokens :=
  rfl

@[simp] theorem surplus_append (front rest : List Token) :
    surplus (front ++ rest) = surplus front + surplus rest := by
  induction front with
  | nil => simp
  | cons token front induction =>
    rw [List.cons_append, surplus_cons, surplus_cons, induction]
    omega

/-- Whether every parenthesis of the tokens has its partner among them. -/
structure IsBalanced (tokens : List Token) : Prop where
  /-- No prefix closes more than it opens. -/
  nonneg {front : List Token} (isPrefix : front <+: tokens) : 0 ≤ surplus front
  total : surplus tokens = 0

instance (tokens : List Token) : Decidable (IsBalanced tokens) :=
  decidable_of_iff ((∀ front ∈ tokens.inits, 0 ≤ surplus front) ∧ surplus tokens = 0)
    ⟨fun both => ⟨fun isPrefix => both.1 _ ((List.mem_inits _ _).mpr isPrefix), both.2⟩,
      fun balanced =>
        ⟨fun _ member => balanced.nonneg ((List.mem_inits _ _).mp member), balanced.total⟩⟩

theorem surplus_eq_of_kinds {tokens tokens' : List Token}
    (same : tokens'.map Token.kind = tokens.map Token.kind) : surplus tokens' = surplus tokens := by
  induction tokens generalizing tokens' with
  | nil => rw [List.map_eq_nil_iff.mp same]
  | cons token tokens induction =>
    obtain ⟨token', rest, rfl, kind, sameRest⟩ := List.map_eq_cons_iff.mp same
    rw [surplus_cons, surplus_cons, kind, induction sameRest]

/-- Balance is a matter of the classes of the tokens. -/
theorem IsBalanced.of_kinds {tokens tokens' : List Token} (balanced : IsBalanced tokens)
    (same : tokens'.map Token.kind = tokens.map Token.kind) : IsBalanced tokens' where
  nonneg {front} isPrefix := by
    have sameFront : front.map Token.kind = (tokens.take front.length).map Token.kind := by
      rw [List.map_take, ← same, ← List.map_take, ← List.prefix_iff_eq_take.mp isPrefix]
    rw [surplus_eq_of_kinds sameFront]
    exact balanced.nonneg (List.take_prefix _ _)
  total := by
    rw [surplus_eq_of_kinds same]
    exact balanced.total

/-- A `)` after which as many groups open as close is the one that ends a balanced list. -/
theorem IsBalanced.eq_nil_of_suffix {front rest : List Token} {close paren : Token}
    (balanced : IsBalanced front) (closes : close.kind = .rightParen)
    (isParen : paren.kind = .rightParen) (isSuffix : paren :: rest <:+ front ++ [close])
    (even : surplus rest = 0) : rest = [] := by
  obtain ⟨passed, whole⟩ := isSuffix
  rcases List.eq_nil_or_concat' rest with rfl | ⟨others, last, rfl⟩
  · rfl
  · rw [List.append_cons, ← List.append_assoc] at whole
    obtain ⟨rfl, equal⟩ := List.append_inj' whole rfl
    cases equal
    have nonneg := balanced.nonneg (List.prefix_append (passed ++ [paren]) others)
    have total := balanced.total
    simp only [surplus_append, surplus_cons, surplus_nil, isParen, closes, TokenKind.surplus]
      at nonneg total even
    omega

end Token

namespace Grammar

open Token (surplus)

variable {tokens rest : List Token}

/-! ## Single tokens -/

theorem surplus_tail_of_nextIsWord {keyword : String} (next : nextIsWord keyword tokens = true) :
    surplus tokens.tail = surplus tokens := by
  cases tokens with
  | nil => rfl
  | cons token tokens =>
    have kind : token.kind = .word := by
      simp only [nextIsWord, List.head?_cons, Option.any_some, Token.isWord, Bool.and_eq_true,
        beq_iff_eq] at next
      exact next.1
    simp [kind, TokenKind.surplus]

theorem surplus_tail_of_nextIsWordIn {keywords : List String}
    (next : nextIsWordIn keywords tokens = true) : surplus tokens.tail = surplus tokens := by
  cases tokens with
  | nil => rfl
  | cons token tokens =>
    obtain ⟨keyword, _, isWord⟩ := List.any_eq_true.mp next
    have nextIs : nextIsWord keyword (token :: tokens) = true := isWord
    exact surplus_tail_of_nextIsWord nextIs

theorem surplus_tail_of_nextIsName (next : nextIsName tokens = true) :
    surplus tokens.tail = surplus tokens := by
  cases tokens with
  | nil => rfl
  | cons token tokens =>
    simp only [nextIsName, List.head?_cons, Option.any_some, Token.isName, Bool.or_eq_true,
      beq_iff_eq] at next
    rcases next with kind | kind <;> simp [kind, TokenKind.surplus]

theorem surplus_tail_of_nextIs {kind : TokenKind} (next : nextIs kind tokens = true) :
    surplus tokens = kind.surplus + surplus tokens.tail := by
  cases tokens with
  | nil => cases next
  | cons token tokens =>
    have isKind : token.kind = kind := by simpa [nextIs] using next
    rw [Token.surplus_cons, isKind]
    rfl

/-! ## Groups -/

theorem surplus_of_closeGroup {depth : Nat} (found : closeGroup depth tokens = .ok rest) :
    surplus rest = surplus tokens + depth + 1 := by
  fun_induction closeGroup depth tokens with
  | case1 => cases found
  | case2 depth token tokens kind induction =>
    have same := induction found
    simp only [Token.surplus_cons, kind, TokenKind.surplus]
    omega
  | case3 token tokens kind =>
    cases found
    simp only [Token.surplus_cons, kind, TokenKind.surplus]
    omega
  | case4 token tokens depth kind induction =>
    have same := induction found
    simp only [Token.surplus_cons, kind, TokenKind.surplus]
    omega
  | case5 token tokens depth notLeft notRight notDeeper induction =>
    have same := induction found
    have notRight : token.kind ≠ .rightParen := by
      intro kind
      cases depth with
      | zero => exact notRight kind rfl
      | succ depth => exact notDeeper depth kind rfl
    rw [Token.surplus_cons, TokenKind.surplus_eq_zero notLeft notRight]
    omega

theorem surplus_of_skipGroup (found : skipGroup tokens = .ok rest) :
    surplus rest = surplus tokens := by
  unfold skipGroup at found
  split at found
  · rename_i isGroup
    have closed := surplus_of_closeGroup found
    have opened := surplus_tail_of_nextIs isGroup
    simp only [TokenKind.surplus] at opened
    omega
  · cases found

theorem surplus_of_skipOptionalGroup (found : skipOptionalGroup tokens = .ok rest) :
    surplus rest = surplus tokens := by
  unfold skipOptionalGroup at found
  split at found
  · exact surplus_of_skipGroup found
  · cases found
    rfl

/-! ## Options and empty statements -/

theorem surplus_of_tableOption? (found : tableOption? tokens = .ok (some ((), rest))) :
    surplus rest = surplus tokens := by
  unfold tableOption? at found
  split at found
  · rename_i isFilegroup
    obtain ⟨after, skipped, equal⟩ := bind_eq_ok.mp found
    cases equal
    rw [surplus_of_skipOptionalGroup skipped, ← surplus_tail_of_nextIsWordIn isFilegroup]
    split
    · rename_i isLabel
      rcases Bool.or_eq_true_iff.mp isLabel with isName | isString
      · exact surplus_tail_of_nextIsName isName
      · have string := surplus_tail_of_nextIs isString
        simp only [TokenKind.surplus] at string
        omega
    · rfl
  split at found
  · rename_i isWith
    obtain ⟨after, skipped, equal⟩ := bind_eq_ok.mp found
    cases equal
    rw [surplus_of_skipGroup skipped]
    exact surplus_tail_of_nextIsWord (Bool.and_eq_true_iff.mp isWith).1
  split at found
  · rename_i isKind
    obtain ⟨isAs, isKind⟩ := Bool.and_eq_true_iff.mp isKind
    cases found
    rw [← List.tail_drop, List.drop_one, surplus_tail_of_nextIsWordIn isKind,
      surplus_tail_of_nextIsWord isAs]
  · cases found

theorem surplus_of_tableOptions (found : tableOptions tokens = .ok rest) :
    surplus rest = surplus tokens := by
  obtain ⟨⟨values, after⟩, read, equal⟩ := bind_eq_ok.mp found
  cases equal
  clear found
  fun_induction many tableOption? progresses_tableOption? tokens generalizing values with
  | case1 => cases read
  | case2 =>
    cases read
    rfl
  | case3 => cases read
  | case4 tokens value next item values' rest' equation induction =>
    cases read
    rw [induction _ equation, surplus_of_tableOption? item]

theorem surplus_dropBatchCount (tokens : List Token) :
    surplus (dropBatchCount tokens) = surplus tokens := by
  cases tokens with
  | nil => rfl
  | cons count tokens =>
    rw [dropBatchCount]
    split
    · rename_i isCount
      simp [isCount.1, TokenKind.surplus]
    · rfl

/-- A script without statements has no parentheses. -/
theorem surplus_of_statements_eq_nil {defaultSchema : String}
    (none : statements defaultSchema tokens = .ok []) : surplus tokens = 0 := by
  fun_induction statements defaultSchema tokens with
  | case1 => rfl
  | case2 token tokens kind induction =>
    rw [Token.surplus_cons, induction none, kind]
    rfl
  | case3 token tokens _ ends induction =>
    have kind : token.kind = .word := by
      simp only [Token.endsBatch, Token.isWord, Bool.and_eq_true, beq_iff_eq] at ends
      exact ends.1.1
    rw [Token.surplus_cons, kind, ← surplus_dropBatchCount, induction none]
    rfl
  | case4 => cases none
  | case5 =>
    obtain ⟨_, _, equal⟩ := map_eq_ok.mp none
    cases equal
  | case6 =>
    obtain ⟨_, _, equal⟩ := map_eq_ok.mp none
    cases equal

end Grammar

end SqlSchema
