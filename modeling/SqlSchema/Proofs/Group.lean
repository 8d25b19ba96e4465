import SqlSchema.Proofs.Balance

/-!
Groups in parentheses. The group of a `(` ends at the `)` before which every other parenthesis has
its partner. Passing over a group ends after that `)`, and fails at the end of the script if there
is none.
-/

namespace SqlSchema

namespace Token

/-- Whether the tokens close `depth` groups and those that they open themselves. -/
structure ClosesAll (depth : Nat) (tokens : List Token) : Prop where
  /-- No prefix closes a group that is not open. -/
  nonneg {front : List Token} (isPrefix : front <+: tokens) : 0 ≤ depth + surplus front
  total : depth + surplus tokens = 0

/-- Whether the tokens before `rest` close `depth` groups, those that they open themselves and, with
the last token, one more group. -/
def ClosesBefore (depth : Nat) (tokens rest : List Token) : Prop :=
  ∃ inner close, tokens = inner ++ close :: rest ∧ close.kind = .rightParen ∧ ClosesAll depth inner

/-- Whether tokens after a `(` are its group, the `)` of the group and `rest`. -/
def IsGroup (tokens inner rest : List Token) : Prop :=
  ∃ close, tokens = inner ++ close :: rest ∧ close.kind = .rightParen ∧ IsBalanced inner

variable {depth : Nat} {token : Token} {tokens inner rest : List Token}

theorem closesAll_zero_iff : ClosesAll 0 tokens ↔ IsBalanced tokens := by
  constructor
  · rintro ⟨nonneg, total⟩
    exact ⟨fun isPrefix => by simpa using nonneg isPrefix, by simpa using total⟩
  · rintro ⟨nonneg, total⟩
    exact ⟨fun isPrefix => by simpa using nonneg isPrefix, by simpa using total⟩

theorem closesAll_nil_iff : ClosesAll depth [] ↔ depth = 0 := by
  constructor
  · intro closes
    simpa using closes.total
  · rintro rfl
    exact closesAll_zero_iff.mpr ⟨fun isPrefix => by simp [List.prefix_nil.mp isPrefix], rfl⟩

/-- The first token leaves some number of groups for the others to close. -/
theorem closesAll_cons_iff : ClosesAll depth (token :: tokens) ↔
    ∃ next : Nat, (next : Int) = depth + token.kind.surplus ∧ ClosesAll next tokens := by
  constructor
  · intro closes
    have first : 0 ≤ depth + surplus [token] :=
      closes.nonneg (List.prefix_append [token] tokens)
    rw [surplus_cons, surplus_nil, Int.add_zero] at first
    refine ⟨(depth + token.kind.surplus).toNat, Int.toNat_of_nonneg first, ?_, ?_⟩
    · intro front isPrefix
      have more := closes.nonneg ((List.cons_prefix_cons (a := token)).mpr ⟨rfl, isPrefix⟩)
      rw [surplus_cons] at more
      omega
    · have total := closes.total
      rw [surplus_cons] at total
      omega
  · rintro ⟨next, isNext, closes⟩
    constructor
    · intro front isPrefix
      cases front with
      | nil => simp
      | cons other front =>
        obtain ⟨rfl, isRest⟩ := List.cons_prefix_cons.mp isPrefix
        have nonneg := closes.nonneg isRest
        rw [surplus_cons]
        omega
    · have total := closes.total
      rw [surplus_cons]
      omega

theorem closesBefore_nil : ¬ClosesBefore depth [] rest := by
  rintro ⟨inner, close, split, -⟩
  exact List.append_ne_nil_of_right_ne_nil inner (List.cons_ne_nil close rest) split.symm

theorem closesBefore_cons_iff : ClosesBefore depth (token :: tokens) rest ↔
    (depth = 0 ∧ token.kind = .rightParen ∧ tokens = rest) ∨
      ∃ next : Nat, (next : Int) = depth + token.kind.surplus ∧ ClosesBefore next tokens rest := by
  constructor
  · rintro ⟨inner, close, split, isClose, closes⟩
    cases inner with
    | nil =>
      cases split
      exact .inl ⟨closesAll_nil_iff.mp closes, isClose, rfl⟩
    | cons first inner =>
      cases split
      obtain ⟨next, isNext, closes⟩ := closesAll_cons_iff.mp closes
      exact .inr ⟨next, isNext, inner, close, rfl, isClose, closes⟩
  · rintro (⟨rfl, isClose, rfl⟩ | ⟨next, isNext, inner, close, rfl, isClose, closes⟩)
    · exact ⟨[], token, rfl, isClose, closesAll_nil_iff.mpr rfl⟩
    · exact ⟨token :: inner, close, rfl, isClose, closesAll_cons_iff.mpr ⟨next, isNext, closes⟩⟩

theorem closesBefore_zero_iff :
    ClosesBefore 0 tokens rest ↔ ∃ inner, IsGroup tokens inner rest := by
  simp only [ClosesBefore, IsGroup, closesAll_zero_iff]

end Token

namespace Grammar

open Token (ClosesBefore IsGroup closesBefore_nil closesBefore_cons_iff)

variable {depth : Nat} {tokens inner rest : List Token}

/-- The groups that are open inside a group are counted. -/
theorem closeGroup_eq_ok_iff :
    closeGroup depth tokens = .ok rest ↔ ClosesBefore depth tokens rest := by
  fun_induction closeGroup depth tokens with
  | case1 =>
    constructor
    · rintro ⟨⟩
    · intro closes
      exact absurd closes closesBefore_nil
  | case2 token tokens depth kind induction =>
    rw [induction, closesBefore_cons_iff, kind]
    constructor
    · intro closes
      exact .inr ⟨depth + 1, rfl, closes⟩
    · rintro (⟨-, ⟨⟩, -⟩ | ⟨next, isNext, closes⟩)
      obtain rfl : next = depth + 1 := by
        simp only [TokenKind.surplus] at isNext
        omega
      exact closes
  | case3 token tokens kind =>
    rw [closesBefore_cons_iff, kind]
    constructor
    · rintro ⟨⟩
      exact .inl ⟨rfl, rfl, rfl⟩
    · rintro (⟨-, -, rfl⟩ | ⟨next, isNext, -⟩)
      · rfl
      · simp only [TokenKind.surplus] at isNext
        omega
  | case4 token tokens depth kind induction =>
    rw [induction, closesBefore_cons_iff, kind]
    constructor
    · intro closes
      refine .inr ⟨depth, ?_, closes⟩
      simp only [TokenKind.surplus]
      omega
    · rintro (⟨⟨⟩, -, -⟩ | ⟨next, isNext, closes⟩)
      obtain rfl : next = depth := by
        simp only [TokenKind.surplus] at isNext
        omega
      exact closes
  | case5 token tokens depth notLeft notRight notDeeper induction =>
    have notRight : token.kind ≠ .rightParen := by
      intro kind
      cases depth with
      | zero => exact notRight kind rfl
      | succ depth => exact notDeeper depth kind rfl
    rw [induction, closesBefore_cons_iff, TokenKind.surplus_eq_zero notLeft notRight]
    constructor
    · intro closes
      exact .inr ⟨depth, by omega, closes⟩
    · rintro (⟨-, isRight, -⟩ | ⟨next, isNext, closes⟩)
      · exact absurd isRight notRight
      · obtain rfl : next = depth := by omega
        exact closes

theorem eq_of_closeGroup_eq_error {refusal : Refusal}
    (failed : closeGroup depth tokens = .error refusal) : refusal = ⟨.more, none⟩ := by
  fun_induction closeGroup depth tokens with
  | case1 =>
    cases failed
    rfl
  | case3 => cases failed
  | case2 _ _ _ _ induction | case4 _ _ _ _ induction | case5 _ _ _ _ _ _ induction =>
    exact induction failed

theorem closeGroup_of_isGroup (isGroup : IsGroup tokens inner rest) :
    closeGroup 0 tokens = .ok rest :=
  closeGroup_eq_ok_iff.mpr (Token.closesBefore_zero_iff.mpr ⟨inner, isGroup⟩)

/-- A group is passed over if it ends. -/
theorem closeGroup_zero_eq_ok_iff :
    closeGroup 0 tokens = .ok rest ↔ ∃ inner, IsGroup tokens inner rest :=
  closeGroup_eq_ok_iff.trans Token.closesBefore_zero_iff

theorem closeGroup_zero_eq_error (unclosed : ¬∃ inner rest, IsGroup tokens inner rest) :
    closeGroup 0 tokens = .error ⟨.more, none⟩ := by
  cases found : closeGroup 0 tokens with
  | error refusal => rw [eq_of_closeGroup_eq_error found]
  | ok rest =>
    obtain ⟨inner, isGroup⟩ := closeGroup_zero_eq_ok_iff.mp found
    exact absurd ⟨inner, rest, isGroup⟩ unclosed

end Grammar

end SqlSchema
