import Mathlib.Data.Nat.Find
import Mathlib.Order.Nat
import SqlSchema.Proofs.Group
import SqlSchema.Proofs.Reading

/-!
The balance of parentheses from a place on. A group ends directly after the first place at which
the balance is zero again, an unknown element before the first comma or `)` at balance zero. Either
fails at the end of the script where a group stays open.
-/

namespace SqlSchema

namespace TokenKind

theorem neg_one_le_surplus (kind : TokenKind) : -1 ≤ kind.surplus := by
  cases kind <;> decide

theorem eq_leftParen_of_surplus_pos {kind : TokenKind} (opens : 0 < kind.surplus) :
    kind = .leftParen := by
  cases kind <;> first | rfl | contradiction

theorem eq_rightParen_of_surplus_neg {kind : TokenKind} (closes : kind.surplus < 0) :
    kind = .rightParen := by
  cases kind <;> first | rfl | contradiction

end TokenKind

namespace Token

/-- How many more parentheses the first `count` tokens open than they close. -/
def balance (tokens : List Token) (count : Nat) : Int :=
  surplus (tokens.take count)

/-- Whether the balance is zero again after `count` of the tokens. -/
structure ReturnsAt (tokens : List Token) (count : Nat) : Prop where
  isLater : 0 < count
  within : count ≤ tokens.length
  even : balance tokens count = 0

instance (tokens : List Token) (count : Nat) : Decidable (ReturnsAt tokens count) :=
  decidable_of_iff (0 < count ∧ count ≤ tokens.length ∧ balance tokens count = 0)
    ⟨fun ⟨isLater, within, even⟩ => ⟨isLater, within, even⟩,
      fun returns => ⟨returns.isLater, returns.within, returns.even⟩⟩

/-- Whether the tokens begin with the `(` of a group that is never closed. -/
structure IsUnclosed (tokens : List Token) : Prop where
  opens : Grammar.nextIs .leftParen tokens = true
  never : ¬∃ count, ReturnsAt tokens count

/-- Whether a comma or a `)` stands after `count` of the tokens and outside of groups, of which
`depth` are open before the tokens. -/
def SeparatesAt (depth : Nat) (tokens : List Token) (count : Nat) : Prop :=
  depth + balance tokens count = 0 ∧
    (Grammar.nextIs .comma (tokens.drop count) = true ∨
      Grammar.nextIs .rightParen (tokens.drop count) = true)

/-- Whether an element has its end after `stop` of the tokens: at the first comma or `)` outside of
groups, or at the end of the tokens if there is none. -/
structure IsElementEnd (depth : Nat) (tokens : List Token) (stop : Nat) : Prop where
  ends : SeparatesAt depth tokens stop ∨ stop = tokens.length
  first : ∀ earlier < stop, ¬SeparatesAt depth tokens earlier

variable {depth count stop : Nat} {opening token : Token} {tokens inner rest : List Token}

/-! ## The balance -/

theorem balance_zero (tokens : List Token) : balance tokens 0 = 0 :=
  rfl

theorem balance_cons_succ (token : Token) (tokens : List Token) (count : Nat) :
    balance (token :: tokens) (count + 1) = token.kind.surplus + balance tokens count :=
  rfl

theorem balance_add (tokens : List Token) (start count : Nat) :
    balance tokens (start + count) = balance tokens start + balance (tokens.drop start) count := by
  rw [balance, List.take_add, surplus_append]
  rfl

theorem balance_succ (within : count < tokens.length) :
    balance tokens (count + 1) = balance tokens count + tokens[count].kind.surplus := by
  rw [balance_add, List.drop_eq_getElem_cons within, balance_cons_succ, balance_zero, Int.add_zero]

/-- A balance that is never zero stays positive, because each token closes one group at most. -/
theorem balance_pos {level : Int} (positive : 0 < level) (within : count ≤ tokens.length)
    (never : ∀ earlier ≤ count, level + balance tokens earlier ≠ 0) :
    0 < level + balance tokens count := by
  induction count with
  | zero => rwa [balance_zero, Int.add_zero]
  | succ count induction =>
    have before := induction (Nat.le_of_succ_le within)
      fun earlier bound => never earlier (Nat.le_succ_of_le bound)
    have notZero := never (count + 1) (Nat.le_refl _)
    have step := TokenKind.neg_one_le_surplus tokens[count].kind
    rw [balance_succ within] at notZero ⊢
    omega

/-! ## Groups -/

theorem returnsAt_cons_succ (isOpen : opening.kind = .leftParen) :
    ReturnsAt (opening :: tokens) (count + 1) ↔
      count ≤ tokens.length ∧ 1 + balance tokens count = 0 := by
  constructor
  · intro returns
    have even := returns.even
    rw [balance_cons_succ, isOpen] at even
    exact ⟨Nat.le_of_succ_le_succ returns.within, even⟩
  · intro both
    refine ⟨Nat.zero_lt_succ count, Nat.succ_le_succ both.1, ?_⟩
    rw [balance_cons_succ, isOpen]
    exact both.2

theorem returnsAt_of_isGroup (isOpen : opening.kind = .leftParen)
    (isGroup : IsGroup tokens inner rest) : ReturnsAt (opening :: tokens) (inner.length + 2) := by
  rcases isGroup with ⟨close, rfl, isClose, balanced⟩
  rw [returnsAt_cons_succ isOpen]
  refine ⟨by simp, ?_⟩
  have total := balanced.total
  rw [balance_add, balance, List.take_left, List.drop_left, balance_cons_succ, isClose, total]
  rfl

/-- The token that first makes the balance zero closes the group that the first token opens. -/
theorem exists_isGroup_of_isLeast (isOpen : opening.kind = .leftParen)
    (least : IsLeast {count | ReturnsAt (opening :: tokens) count} (count + 1)) :
    ∃ inner, IsGroup tokens inner (tokens.drop count) := by
  rcases (returnsAt_cons_succ isOpen).mp least.1 with ⟨within, even⟩
  cases count with
  | zero => cases even
  | succ count =>
    have positive (earlier : Nat) (bound : earlier ≤ count) : 0 < 1 + balance tokens earlier := by
      apply balance_pos Int.one_pos (by omega)
      intro before beforeBound isZero
      have returns := (returnsAt_cons_succ isOpen).mpr ⟨by omega, isZero⟩
      have notEarlier := least.2 returns
      omega
    have last := positive count (Nat.le_refl count)
    rw [balance_succ within] at even
    have isClose : tokens[count].kind = .rightParen :=
      TokenKind.eq_rightParen_of_surplus_neg (by omega)
    have step := TokenKind.neg_one_le_surplus tokens[count].kind
    refine ⟨tokens.take count, tokens[count], ?_, isClose, ?_, ?_⟩
    · rw [List.cons_getElem_drop_succ, List.take_append_drop]
    · intro front isPrefix
      rw [List.prefix_take_iff] at isPrefix
      have opened := positive front.length isPrefix.2
      rw [balance, ← List.prefix_iff_eq_take.mp isPrefix.1] at opened
      omega
    · change balance tokens count = 0
      omega

/-! ## Elements -/

theorem separatesAt_cons_succ {next : Nat} (isNext : (next : Int) = depth + token.kind.surplus) :
    SeparatesAt depth (token :: tokens) (count + 1) ↔ SeparatesAt next tokens count := by
  rw [SeparatesAt, SeparatesAt, balance_cons_succ, List.drop_succ_cons, isNext, Int.add_assoc]

namespace IsElementEnd

theorem le_length (isEnd : IsElementEnd depth tokens stop) : stop ≤ tokens.length := by
  rcases isEnd.ends with ⟨-, separator⟩ | atEnd
  · by_contra beyond
    rw [List.drop_eq_nil_of_le (by omega)] at separator
    rcases separator with isComma | isParen
    · cases isComma
    · cases isParen
  · exact Nat.le_of_eq atEnd

/-- No group is closed inside of an element that is not open there. -/
theorem balance_nonneg (isEnd : IsElementEnd depth tokens stop) (bound : count ≤ stop) :
    0 ≤ depth + balance tokens count := by
  induction count with
  | zero =>
    rw [balance_zero, Int.add_zero]
    exact Int.natCast_nonneg depth
  | succ count induction =>
    have before := induction (Nat.le_of_succ_le bound)
    have within : count < tokens.length := Nat.lt_of_lt_of_le bound isEnd.le_length
    have step := TokenKind.neg_one_le_surplus tokens[count].kind
    rw [balance_succ within]
    by_contra negative
    have isParen : tokens[count].kind = .rightParen :=
      TokenKind.eq_rightParen_of_surplus_neg (by omega)
    refine isEnd.first count bound ⟨by omega, .inr ?_⟩
    rw [List.drop_eq_getElem_cons within]
    exact Grammar.nextIs_of_kind isParen

end IsElementEnd

/-- A group that is never closed counts at each later place. -/
theorem IsUnclosed.balance_pos (unclosed : IsUnclosed tokens) (isLater : 0 < count)
    (within : count ≤ tokens.length) : 0 < balance tokens count := by
  rcases Grammar.exists_of_nextIs unclosed.opens with ⟨opening, inside, rfl, isOpen⟩
  cases count with
  | zero => cases isLater
  | succ count =>
    have within : count ≤ inside.length := Nat.le_of_succ_le_succ within
    rw [balance_cons_succ, isOpen]
    apply Token.balance_pos Int.one_pos within
    intro earlier bound isZero
    have returns := (returnsAt_cons_succ isOpen).mpr ⟨Nat.le_trans bound within, isZero⟩
    exact unclosed.never ⟨earlier + 1, returns⟩

theorem exists_last_balance_zero (tokens : List Token) :
    ∃ last ≤ tokens.length, balance tokens last = 0 ∧
      ∀ later ≤ tokens.length, last < later → balance tokens later ≠ 0 :=
  ⟨Nat.findGreatest (fun count => balance tokens count = 0) tokens.length,
    Nat.findGreatest_le tokens.length,
    Nat.findGreatest_spec (P := fun count => balance tokens count = 0) (Nat.zero_le tokens.length)
      (balance_zero tokens),
    fun _ within after => Nat.findGreatest_is_greatest after within⟩

/-- After the last place at balance zero a group begins that is never closed. -/
theorem exists_isUnclosed_of_balance_ne_zero
    (nonneg : ∀ count ≤ tokens.length, 0 ≤ balance tokens count)
    (notZero : balance tokens tokens.length ≠ 0) :
    ∃ opened < tokens.length, IsUnclosed (tokens.drop opened) := by
  rcases exists_last_balance_zero tokens with ⟨opened, bound, isZero, isLast⟩
  have before : opened < tokens.length := by
    apply Nat.lt_of_le_of_ne bound
    intro atEnd
    rw [atEnd] at isZero
    exact notZero isZero
  refine ⟨opened, before, ?_, ?_⟩
  · have next := isLast (opened + 1) before (Nat.lt_succ_self opened)
    have nextNonneg := nonneg (opened + 1) before
    rw [balance_succ before, isZero] at next nextNonneg
    rw [List.drop_eq_getElem_cons before]
    exact Grammar.nextIs_of_kind (TokenKind.eq_leftParen_of_surplus_pos (by omega))
  · rintro ⟨count, isLater, within, even⟩
    rw [List.length_drop] at within
    apply isLast (opened + count) (by omega) (by omega)
    rw [balance_add, isZero, even]
    rfl

/-- The balance at the end of an element tells whether a group in it is never closed. -/
theorem IsElementEnd.exists_isUnclosed_iff (isEnd : IsElementEnd 0 tokens stop) :
    (∃ opened < stop, IsUnclosed (tokens.drop opened)) ↔ balance tokens stop ≠ 0 := by
  have nonneg (count : Nat) (bound : count ≤ stop) : 0 ≤ balance tokens count := by
    simpa using isEnd.balance_nonneg bound
  constructor
  · rintro ⟨opened, before, unclosed⟩
    have within : stop - opened ≤ (tokens.drop opened).length := by
      rw [List.length_drop]
      exact Nat.sub_le_sub_right isEnd.le_length opened
    have positive := unclosed.balance_pos (Nat.sub_pos_of_lt before) within
    have openedNonneg := nonneg opened (Nat.le_of_lt before)
    have split := balance_add tokens opened (stop - opened)
    rw [Nat.add_sub_cancel' (Nat.le_of_lt before)] at split
    omega
  · intro notZero
    rcases isEnd.ends with separates | rfl
    · have isZero : balance tokens stop = 0 := by simpa using separates.1
      exact absurd isZero notZero
    · exact exists_isUnclosed_of_balance_ne_zero nonneg notZero

end Token

namespace Grammar

open Token

variable {depth count stop : Nat} {opening token : Token} {tokens rest : List Token}

/-! ## Passing over groups -/

theorem skipGroup_cons (isOpen : opening.kind = .leftParen) (tokens : List Token) :
    skipGroup (opening :: tokens) = closeGroup 0 tokens := by
  rw [skipGroup, if_pos (nextIs_of_kind isOpen), List.tail_cons]

theorem skipGroup_of_isLeast (opens : nextIs .leftParen tokens = true)
    (least : IsLeast {count | ReturnsAt tokens count} count) :
    skipGroup tokens = .ok (tokens.drop count) := by
  rcases exists_of_nextIs opens with ⟨opening, rest, rfl, isOpen⟩
  cases count with
  | zero => exact absurd least.1.isLater (Nat.lt_irrefl 0)
  | succ count =>
    rw [skipGroup_cons isOpen, List.drop_succ_cons]
    exact closeGroup_zero_eq_ok_iff.mpr (exists_isGroup_of_isLeast isOpen least)

theorem exists_returnsAt_of_skipGroup (opens : nextIs .leftParen tokens = true)
    (found : skipGroup tokens = .ok rest) : ∃ count, ReturnsAt tokens count := by
  rcases exists_of_nextIs opens with ⟨opening, inside, rfl, isOpen⟩
  rw [skipGroup_cons isOpen] at found
  rcases closeGroup_zero_eq_ok_iff.mp found with ⟨inner, isGroup⟩
  exact ⟨inner.length + 2, returnsAt_of_isGroup isOpen isGroup⟩

theorem skipGroup_of_never (opens : nextIs .leftParen tokens = true)
    (never : ¬∃ count, ReturnsAt tokens count) : skipGroup tokens = .error ⟨.more, none⟩ := by
  cases found : skipGroup tokens with
  | ok rest => exact absurd (exists_returnsAt_of_skipGroup opens found) never
  | error refusal =>
    rcases exists_of_nextIs opens with ⟨opening, inside, rfl, isOpen⟩
    rw [skipGroup_cons isOpen] at found
    rw [eq_of_closeGroup_eq_error found]

/-! ## Passing over elements -/

/-- Whether `result` is what is left of the tokens from the end of their element on, or the refusal
of an element in which a group stays open. -/
def PassesElement (depth : Nat) (tokens : List Token) (result : Except Refusal (List Token)) : Prop :=
  ∃ stop, IsElementEnd depth tokens stop ∧
    result = if depth + balance tokens stop = 0 then .ok (tokens.drop stop) else refuse .more []

theorem passesElement_nil (depth : Nat) :
    PassesElement depth [] (if depth = 0 then .ok [] else refuse .more []) := by
  refine ⟨0, ⟨.inr rfl, fun _ before => absurd before (Nat.not_lt_zero _)⟩, ?_⟩
  simp [balance_zero]

theorem passesElement_of_separatesAt (separates : SeparatesAt depth tokens 0) :
    PassesElement depth tokens (.ok tokens) := by
  refine ⟨0, ⟨.inl separates, fun _ before => absurd before (Nat.not_lt_zero _)⟩, ?_⟩
  rw [if_pos separates.1, List.drop_zero]

theorem passesElement_cons {next : Nat} {result : Except Refusal (List Token)}
    (isNext : (next : Int) = depth + token.kind.surplus)
    (inside : ¬SeparatesAt depth (token :: tokens) 0) (passes : PassesElement next tokens result) :
    PassesElement depth (token :: tokens) result := by
  rcases passes with ⟨stop, ⟨ends, first⟩, outcome⟩
  refine ⟨stop + 1, ⟨?_, ?_⟩, ?_⟩
  · rw [separatesAt_cons_succ isNext, List.length_cons, Nat.succ_inj]
    exact ends
  · intro earlier before
    cases earlier with
    | zero => exact inside
    | succ earlier =>
      rw [separatesAt_cons_succ isNext]
      exact first earlier (Nat.lt_of_succ_lt_succ before)
  · rw [balance_cons_succ, ← Int.add_assoc, ← isNext, List.drop_succ_cons]
    exact outcome

theorem separatesAt_zero_iff : SeparatesAt depth (token :: tokens) 0 ↔
    depth = 0 ∧ (token.kind = .comma ∨ token.kind = .rightParen) := by
  simp [SeparatesAt, balance_zero, nextIs]

/-- The groups that are open before the tokens are counted, so the end of an element from a token on
is one further than its end from the next token on. -/
theorem passesElement_skipElement (depth : Nat) (tokens : List Token) :
    PassesElement depth tokens (skipElement depth tokens) := by
  fun_induction skipElement depth tokens with
  | case1 => exact passesElement_nil 0
  | case2 depth isOpen =>
    have passes := passesElement_nil depth
    rwa [if_neg isOpen] at passes
  | case3 token tokens kind =>
    exact passesElement_of_separatesAt (separatesAt_zero_iff.mpr ⟨rfl, .inl kind⟩)
  | case4 token tokens kind =>
    exact passesElement_of_separatesAt (separatesAt_zero_iff.mpr ⟨rfl, .inr kind⟩)
  | case5 token tokens depth kind induction =>
    refine passesElement_cons ?_ ?_ induction
    · rw [kind]
      rfl
    · rw [separatesAt_zero_iff, kind]
      simp
  | case6 token tokens depth kind induction =>
    refine passesElement_cons ?_ ?_ induction
    · rw [kind, TokenKind.surplus]
      omega
    · rw [separatesAt_zero_iff]
      rintro ⟨⟨⟩, -⟩
  | case7 token tokens depth notComma notRight notLeft notDeeper induction =>
    have isPlain : token.kind.surplus = 0 := by
      apply TokenKind.surplus_eq_zero notLeft
      intro kind
      cases depth with
      | zero => exact notRight kind rfl
      | succ depth => exact notDeeper depth kind rfl
    refine passesElement_cons ?_ ?_ induction
    · rw [isPlain, Int.add_zero]
    · rw [separatesAt_zero_iff]
      rintro ⟨outside, isComma | isRight⟩
      · exact notComma isComma outside
      · exact notRight isRight outside

/-- An element in which a group is never closed is refused, any other is passed over. -/
theorem exists_skipElement (tokens : List Token) :
    ∃ stop, IsElementEnd 0 tokens stop ∧
      ((∃ opened < stop, IsUnclosed (tokens.drop opened)) ∧
          skipElement 0 tokens = .error ⟨.more, none⟩ ∨
        (¬∃ opened < stop, IsUnclosed (tokens.drop opened)) ∧
          skipElement 0 tokens = .ok (tokens.drop stop)) := by
  rcases passesElement_skipElement 0 tokens with ⟨stop, isEnd, outcome⟩
  rw [Int.natCast_zero, Int.zero_add] at outcome
  refine ⟨stop, isEnd, ?_⟩
  rw [isEnd.exists_isUnclosed_iff, not_not, outcome]
  by_cases isZero : balance tokens stop = 0
  · exact .inr ⟨isZero, if_pos isZero⟩
  · exact .inl ⟨isZero, if_neg isZero⟩

/-! ## Failing at the end -/

/-- What a reader gives in a script: its value, or the error of its refusal. -/
def reported {α : Type} (script : List Token) (result : Except Refusal α) : Except SyntaxError α :=
  result.mapError fun refusal => refusal.toError ((script.getLast?.map Token.line).getD 1)

theorem readTokens_eq_reported (defaultSchema : String) (script : List Token) :
    readTokens defaultSchema script = reported script (statements defaultSchema script) :=
  rfl

/-- Whether a reader reports that the script ends, at the line of its last token. -/
def FailsAtEnd {α : Type} (script : List Token) (result : Except Refusal α) : Prop :=
  ∃ last, script.getLast? = some last ∧
    reported script result = .error (.refused .more none last.line)

theorem failsAtEnd_of_refused {α : Type} (front : List Token) {result : Except Refusal α}
    (isSome : tokens ≠ []) (refused : result = .error ⟨.more, none⟩) :
    FailsAtEnd (front ++ tokens) result := by
  have isSome := List.append_ne_nil_of_right_ne_nil front isSome
  have isLast := List.getLast?_eq_some_getLast isSome
  refine ⟨_, isLast, ?_⟩
  rw [refused, reported, isLast]
  rfl

theorem not_failsAtEnd_ok {α : Type} {script : List Token} {value : α} :
    ¬FailsAtEnd script (.ok value) := by
  rintro ⟨last, -, ⟨⟩⟩

/-- A group that is passed over ends directly after the first place at which the balance of its
parentheses is zero again, an element at the first comma or `)` at balance zero or at the end of the
script. Either fails exactly where a group stays open, and reports the last line. -/
theorem skipping_ends_at_balance (front tokens : List Token) :
    (nextIs .leftParen tokens = true →
      ((∃ rest, skipGroup tokens = .ok rest) ↔ ∃ count, ReturnsAt tokens count) ∧
      (∀ count, IsLeast {count | ReturnsAt tokens count} count →
        skipGroup tokens = .ok (tokens.drop count)) ∧
      ((¬∃ count, ReturnsAt tokens count) → FailsAtEnd (front ++ tokens) (skipGroup tokens))) ∧
    ∃ stop, IsElementEnd 0 tokens stop ∧
      ((¬∃ opened < stop, IsUnclosed (tokens.drop opened)) →
        skipElement 0 tokens = .ok (tokens.drop stop)) ∧
      (FailsAtEnd (front ++ tokens) (skipElement 0 tokens) ↔
        ∃ opened < stop, IsUnclosed (tokens.drop opened)) := by
  constructor
  · intro opens
    have isSome : tokens ≠ [] := by
      rintro rfl
      cases opens
    refine ⟨⟨?_, ?_⟩, fun count => skipGroup_of_isLeast opens, ?_⟩
    · rintro ⟨rest, found⟩
      exact exists_returnsAt_of_skipGroup opens found
    · intro returns
      exact ⟨_, skipGroup_of_isLeast opens (Nat.isLeast_find returns)⟩
    · intro never
      exact failsAtEnd_of_refused front isSome (skipGroup_of_never opens never)
  · rcases exists_skipElement tokens with ⟨stop, isEnd, ⟨unclosed, refused⟩ | ⟨closed, passed⟩⟩
    · have isSome : tokens ≠ [] := by
        rintro rfl
        rcases unclosed with ⟨opened, before, -⟩
        exact absurd (Nat.lt_of_lt_of_le before isEnd.le_length) (Nat.not_lt_zero opened)
      have fails := failsAtEnd_of_refused front isSome refused
      exact ⟨stop, isEnd, fun closed => absurd unclosed closed, fun _ => unclosed, fun _ => fails⟩
    · refine ⟨stop, isEnd, fun _ => passed, ?_, fun unclosed => absurd unclosed closed⟩
      intro fails
      rw [passed] at fails
      exact absurd fails not_failsAtEnd_ok

/-- The group of the first `(` is passed over, the last one is never closed. -/
theorem skipping_ends_at_balance_groups :
    ∃ tokens, Token.scan "((A), B) C, (D" = .ok tokens ∧
      nextIs .leftParen tokens = true ∧ IsLeast {count | ReturnsAt tokens count} 7 ∧
      skipGroup tokens = .ok (tokens.drop 7) ∧
      nextIs .leftParen (tokens.drop 9) = true ∧ (¬∃ count, ReturnsAt (tokens.drop 9) count) ∧
      FailsAtEnd (tokens.take 9 ++ tokens.drop 9) (skipGroup (tokens.drop 9)) := by
  have holds : (Token.scan "((A), B) C, (D").toOption.any (fun tokens =>
      nextIs .leftParen tokens = true ∧
        (ReturnsAt tokens 7 ∧ ∀ count < (7 : Nat), ¬ReturnsAt tokens count) ∧
        nextIs .leftParen (tokens.drop 9) = true ∧
        ∀ count ≤ (tokens.drop 9).length, ¬ReturnsAt (tokens.drop 9) count) = true := by
    decide +kernel
  rcases (Option.any_eq_true _ _).mp holds with ⟨tokens, scanned, holds⟩
  rcases of_decide_eq_true holds with ⟨opens, ⟨returns, notEarlier⟩, opensLast, never⟩
  have least : IsLeast {count | ReturnsAt tokens count} 7 := by
    refine ⟨returns, fun count isReturn => ?_⟩
    by_contra before
    exact notEarlier count (Nat.lt_of_not_le before) isReturn
  have neverClosed : ¬∃ count, ReturnsAt (tokens.drop 9) count := by
    rintro ⟨count, isReturn⟩
    exact never count isReturn.within isReturn
  exact ⟨tokens, toOption_eq_some.mp scanned, opens, least,
    ((skipping_ends_at_balance [] tokens).1 opens).2.1 7 least, opensLast, neverClosed,
    ((skipping_ends_at_balance (tokens.take 9) (tokens.drop 9)).1 opensLast).2.2 neverClosed⟩

end Grammar

end SqlSchema
